import ChatRelay.Proofs.Json.RoundTrip
import Mathlib.Data.List.Nodup
import Mathlib.Data.List.Perm.Basic

/-!
# Values with sorted keys

Sorting the keys of a value puts the members of every object, at every depth, in the ascending order of their keys, by
code points, and changes nothing else.

- `Sorts`: a value and the same with its keys sorted, told without a way to sort;
- `eq_sortKeys`, `sorts_sortKeys`: there is one such value when no object has a key twice, and `sortKeys` gives it;
- `legibleAt_sortKeys`: a value that a text can hold is one that a text can hold with its keys sorted;
- `sortKeys_sortKeys`: sorting the keys again changes nothing.
-/

namespace ChatRelay.Json

mutual

/-- A value, and the same with the members of every object in the ascending order of their keys. -/
inductive Sorts : Json → Json → Prop
  | null : Sorts .null .null
  | bool (b : Bool) : Sorts (.bool b) (.bool b)
  | int (n : Int) : Sorts (.int n) (.int n)
  | float (x : Binary64) : Sorts (.float x) (.float x)
  | str (s : String) : Sorts (.str s) (.str s)
  | arr {items items' : List Json} : SortsItems items items' → Sorts (.arr items) (.arr items')
  | obj {members members' sorted : List (String × Json)} : SortsMembers members members' → members'.Perm sorted →
      sorted.Pairwise (fun m m' => m.1 < m'.1) → Sorts (.obj members) (.obj sorted)

/-- The items of an array, and the same with their keys sorted. -/
inductive SortsItems : List Json → List Json → Prop
  | nil : SortsItems [] []
  | cons {v v' : Json} {rest rest' : List Json} : Sorts v v' → SortsItems rest rest' →
      SortsItems (v :: rest) (v' :: rest')

/-- The members of an object, and the same with the keys of their values sorted. -/
inductive SortsMembers : List (String × Json) → List (String × Json) → Prop
  | nil : SortsMembers [] []
  | cons {key : String} {v v' : Json} {rest rest' : List (String × Json)} : Sorts v v' → SortsMembers rest rest' →
      SortsMembers ((key, v) :: rest) ((key, v') :: rest')

end

/-! ## The order of members -/

section

variable {members sorted : List (String × Json)}

theorem keyLe_iff {m m' : String × Json} : keyLe m m' = true ↔ m.1 ≤ m'.1 := by
  rw [keyLe, decide_eq_true_eq, String.not_lt]

/-- Members that were sorted are in the order of their keys. -/
theorem pairwise_keyLe (members : List (String × Json)) :
    (members.mergeSort keyLe).Pairwise fun m m' => keyLe m m' = true := by
  refine List.pairwise_mergeSort (fun a b c hab hbc => ?_) (fun a b => ?_) members
  · exact keyLe_iff.2 (String.le_trans (keyLe_iff.1 hab) (keyLe_iff.1 hbc))
  · rw [Bool.or_eq_true, keyLe_iff, keyLe_iff]
    exact String.le_total a.1 b.1

/-- Members with distinct keys that were sorted are in the ascending order of their keys. -/
theorem pairwise_mergeSort_lt (h : (Assoc.keys members).Nodup) :
    (members.mergeSort keyLe).Pairwise fun m m' => m.1 < m'.1 := by
  have hnodup : ((members.mergeSort keyLe).map Prod.fst).Nodup :=
    ((List.mergeSort_perm members keyLe).map Prod.fst).nodup_iff.2 h
  rw [List.Nodup, List.pairwise_map] at hnodup
  refine (hnodup.and (pairwise_keyLe members)).imp fun {m m'} ⟨hne, hle⟩ => ?_
  by_contra hlt
  exact hne (String.le_antisymm (keyLe_iff.1 hle) hlt)

/-- There is one ascending order of members. -/
theorem eq_mergeSort (hperm : members.Perm sorted) (hsorted : sorted.Pairwise fun m m' => m.1 < m'.1) :
    sorted = members.mergeSort keyLe := by
  have hnodup : (sorted.map Prod.fst).Nodup := by
    rw [List.Nodup, List.pairwise_map]
    exact hsorted.imp String.ne_of_lt
  have hle : sorted.Pairwise fun m m' => keyLe m m' = true :=
    hsorted.imp fun hlt => keyLe_iff.2 fun hgt => String.lt_irrefl _ (String.lt_trans hlt hgt)
  refine List.Perm.eq_of_pairwise (fun m m' hm hm' hmm' hm'm => ?_) hle (pairwise_keyLe members)
    (hperm.symm.trans (List.mergeSort_perm _ _).symm)
  exact List.inj_on_of_nodup_map hnodup hm (hperm.mem_iff.1 (List.mem_mergeSort.1 hm'))
    (String.le_antisymm (keyLe_iff.1 hmm') (keyLe_iff.1 hm'm))

end

/-! ## Values -/

theorem keys_sortMembers (members : List (String × Json)) : Assoc.keys (sortMembers members) = Assoc.keys members := by
  induction members with
  | nil => rfl
  | cons m members ih => exact congrArg (m.1 :: ·) ih

theorem sortMembers_eq_self_iff {members : List (String × Json)} :
    sortMembers members = members ↔ ∀ m ∈ members, m.2.sortKeys = m.2 := by
  induction members with
  | nil => simp [sortMembers]
  | cons m members ih =>
    obtain ⟨key, v⟩ := m
    rw [sortMembers, List.cons_eq_cons, ih, List.forall_mem_cons, Prod.mk.injEq, and_iff_right rfl]

theorem keys_mergeSort (members : List (String × Json)) :
    (Assoc.keys (members.mergeSort keyLe)).Perm (Assoc.keys members) :=
  (List.mergeSort_perm members keyLe).map Prod.fst

mutual

/-- There is one value that is the same with its keys sorted. -/
theorem eq_sortKeys : {v w : Json} → Sorts v w → w = v.sortKeys
  | .null, _, .null => rfl
  | .bool _, _, .bool _ => rfl
  | .int _, _, .int _ => rfl
  | .float _, _, .float _ => rfl
  | .str _, _, .str _ => rfl
  | .arr _, _, .arr hitems => by rw [sortKeys, eq_sortItems hitems]
  | .obj _, _, .obj hmembers hperm hsorted => by
    rw [sortKeys, ← eq_sortMembers hmembers, ← eq_mergeSort hperm hsorted]

theorem eq_sortItems : {items items' : List Json} → SortsItems items items' → items' = sortItems items
  | [], _, .nil => rfl
  | _ :: _, _, .cons hv hrest => by rw [sortItems, eq_sortKeys hv, eq_sortItems hrest]

theorem eq_sortMembers :
    {members members' : List (String × Json)} → SortsMembers members members' → members' = sortMembers members
  | [], _, .nil => rfl
  | (_, _) :: _, _, .cons hv hrest => by rw [sortMembers, eq_sortKeys hv, eq_sortMembers hrest]

end

theorem Sorts.unique {v w w' : Json} (h : Sorts v w) (h' : Sorts v w') : w = w' :=
  (eq_sortKeys h).trans (eq_sortKeys h').symm

mutual

/-- The keys of a value without repeated keys are sorted. -/
theorem sorts_sortKeys : {v : Json} → Distinct v → Sorts v v.sortKeys
  | .null, _ => .null
  | .bool b, _ => .bool b
  | .int n, _ => .int n
  | .float x, _ => .float x
  | .str s, _ => .str s
  | .arr _, hitems => .arr (sorts_sortItems hitems)
  | .obj members, hmembers => by
    have hkeys : (Assoc.keys (sortMembers members)).Nodup := (keys_sortMembers members).symm ▸ hmembers.1
    exact .obj (sorts_sortMembers hmembers.2) (List.mergeSort_perm _ _).symm (pairwise_mergeSort_lt hkeys)

theorem sorts_sortItems : {items : List Json} → DistinctItems items → SortsItems items (sortItems items)
  | [], _ => .nil
  | _ :: _, h => .cons (sorts_sortKeys h.1) (sorts_sortItems h.2)

theorem sorts_sortMembers :
    {members : List (String × Json)} → DistinctMembers members → SortsMembers members (sortMembers members)
  | [], _ => .nil
  | (_, _) :: _, h => .cons (sorts_sortKeys h.1) (sorts_sortMembers h.2)

end

mutual

theorem distinct_sortKeys : {v : Json} → Distinct v → Distinct v.sortKeys
  | .null, _ => trivial
  | .bool _, _ => trivial
  | .int _, _ => trivial
  | .float _, _ => trivial
  | .str _, _ => trivial
  | .arr _, hitems => distinct_sortItems hitems
  | .obj members, hmembers => by
    rw [sortKeys, Distinct, (keys_mergeSort _).nodup_iff, keys_sortMembers]
    refine ⟨hmembers.1, distinctMembers_iff.2 fun m hm => ?_⟩
    exact distinctMembers_iff.1 (distinct_sortMembers hmembers.2) m (List.mem_mergeSort.1 hm)

theorem distinct_sortItems : {items : List Json} → DistinctItems items → DistinctItems (sortItems items)
  | [], _ => trivial
  | _ :: _, h => ⟨distinct_sortKeys h.1, distinct_sortItems h.2⟩

theorem distinct_sortMembers :
    {members : List (String × Json)} → DistinctMembers members → DistinctMembers (sortMembers members)
  | [], _ => trivial
  | (_, _) :: _, h => ⟨distinct_sortKeys h.1, distinct_sortMembers h.2⟩

end

section

variable [Host]

mutual

/-- A value is no fault exactly when it is none with its keys sorted. -/
theorem refusal?_sortKeys_eq_none_iff {depth : Nat} :
    (v : Json) → (v.sortKeys.refusal? depth = none ↔ v.refusal? depth = none)
  | .null => Iff.rfl
  | .bool _ => Iff.rfl
  | .int _ => Iff.rfl
  | .float _ => Iff.rfl
  | .str _ => Iff.rfl
  | .arr items => by
    rw [sortKeys, refusal?_arr_eq_none_iff, refusal?_arr_eq_none_iff, refusal?_sortItems_eq_none_iff items]
  | .obj members => by
    rw [sortKeys, refusal?_obj_eq_none_iff, refusal?_obj_eq_none_iff, ← refusal?_sortMembers_eq_none_iff members]
    simp only [List.mem_mergeSort]

theorem refusal?_sortItems_eq_none_iff {depth : Nat} : (items : List Json) →
    ((∀ v ∈ sortItems items, v.refusal? depth = none) ↔ ∀ v ∈ items, v.refusal? depth = none)
  | [] => Iff.rfl
  | v :: rest => by
    rw [sortItems, List.forall_mem_cons, List.forall_mem_cons, refusal?_sortKeys_eq_none_iff v,
      refusal?_sortItems_eq_none_iff rest]

theorem refusal?_sortMembers_eq_none_iff {depth : Nat} : (members : List (String × Json)) →
    ((∀ m ∈ sortMembers members, m.2.refusal? depth = none) ↔ ∀ m ∈ members, m.2.refusal? depth = none)
  | [] => Iff.rfl
  | (_, v) :: rest => by
    rw [sortMembers, List.forall_mem_cons, List.forall_mem_cons, refusal?_sortKeys_eq_none_iff v,
      refusal?_sortMembers_eq_none_iff rest]

end

theorem legibleAt_sortKeys {depth : Nat} {v : Json} (h : LegibleAt depth v) : LegibleAt depth v.sortKeys :=
  ⟨distinct_sortKeys h.distinct, (refusal?_sortKeys_eq_none_iff v).2 h.within⟩

end

mutual

/-- Sorting the keys again changes nothing. -/
theorem sortKeys_sortKeys : (v : Json) → v.sortKeys.sortKeys = v.sortKeys
  | .null => rfl
  | .bool _ => rfl
  | .int _ => rfl
  | .float _ => rfl
  | .str _ => rfl
  | .arr items => congrArg Json.arr (sortItems_sortItems items)
  | .obj members => by
    have hfixed := sortMembers_eq_self_iff.1 (sortMembers_sortMembers members)
    have hsorted : sortMembers ((sortMembers members).mergeSort keyLe) = (sortMembers members).mergeSort keyLe :=
      sortMembers_eq_self_iff.2 fun m hm => hfixed m (List.mem_mergeSort.1 hm)
    rw [sortKeys, sortKeys, hsorted, List.mergeSort_of_pairwise (pairwise_keyLe _)]

theorem sortItems_sortItems : (items : List Json) → sortItems (sortItems items) = sortItems items
  | [] => rfl
  | v :: rest => by rw [sortItems, sortItems, sortKeys_sortKeys v, sortItems_sortItems rest]

theorem sortMembers_sortMembers :
    (members : List (String × Json)) → sortMembers (sortMembers members) = sortMembers members
  | [] => rfl
  | (_, v) :: rest => by rw [sortMembers, sortMembers, sortKeys_sortKeys v, sortMembers_sortMembers rest]

end

end ChatRelay.Json
