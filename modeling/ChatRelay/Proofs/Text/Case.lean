import ChatRelay.Text.Case

/-!
# A text in upper case

The mapping to upper case comes to its end at once: what it gives it leaves as it is. It is given by tables, so this is
a matter of the tables: no run leads into another one, none leads to a character with an expansion, and no expansion
holds a character that is mapped.

- `CaseRun.isClear`: a run leads past another one, found on their ends and steps alone (`image?_of_isClear`);
- `Settled`, `settled_upperChar`: characters without an upper case of their own, and that the mapping gives no others;
- `upper_upper`: a text in upper case stays as it is.
-/

namespace ChatRelay.Text

/-! ## Runs -/

namespace CaseRun

/-- The least code point that a run leads to. -/
def low (r : CaseRun) : Nat := (r.first + r.shift).toNat

/-- The greatest code point that a run leads to. -/
def high (r : CaseRun) : Nat := (r.last + r.shift).toNat

/-- Whether a run leads to characters: to nothing below zero, no halves of pairs and nothing beyond the last. -/
def isSound (r : CaseRun) : Bool :=
  decide (0 ≤ r.first + r.shift) && (r.high < 55296 || 57343 < r.low && r.high < 1114112)

/-- Whether a run leads past another one: before it, after it, or between its steps of two. -/
def isClear (r q : CaseRun) : Bool :=
  Nat.blt r.high q.first || Nat.blt q.last r.low ||
    q.step == 2 && (r.step == 2 || r.first == r.last) && (r.low + q.first) % 2 == 1

/-- The image of a character is the character at its distance. -/
theorem toNat_image {r : CaseRun} (hr : r.isSound = true) {n : Nat} {c : Char} (h : r.image? n = some c) :
    (c.toNat : Int) = n + r.shift ∧ r.first ≤ n ∧ n ≤ r.last ∧ (n - r.first) % r.step = 0 := by
  unfold image? at h
  split at h
  · next hn =>
    obtain rfl := Option.some.inj h
    refine ⟨?_, hn⟩
    simp only [isSound, Bool.and_eq_true, Bool.or_eq_true, decide_eq_true_eq] at hr
    unfold low high at hr
    have hvalid : (n + r.shift).toNat.isValidChar := by
      unfold Nat.isValidChar
      omega
    have himage : (Char.ofNat (n + r.shift).toNat).toNat = (n + r.shift).toNat := by
      rw [Char.ofNat, dif_pos hvalid]
      rfl
    omega
  · cases h

/-- A run does not move the image of a character under a run that leads past it. -/
theorem image?_of_isClear {r q : CaseRun} (hr : r.isSound = true) (hclear : r.isClear q = true) {n : Nat} {c : Char}
    (h : r.image? n = some c) : q.image? c.toNat = none := by
  obtain ⟨hc, hfirst, hlast, hstep⟩ := toNat_image hr h
  simp only [isSound, Bool.and_eq_true, decide_eq_true_eq] at hr
  have hlow : (r.low : Int) = r.first + r.shift := Int.toNat_of_nonneg hr.1
  have hhigh : (r.high : Int) = r.last + r.shift := Int.toNat_of_nonneg (by omega)
  rw [image?, if_neg]
  rintro ⟨hqfirst, hqlast, hqstep⟩
  simp only [isClear, Bool.or_eq_true, Bool.and_eq_true, Nat.blt_eq, beq_iff_eq] at hclear
  rcases hclear with (hbefore | hafter) | ⟨⟨htwo, hsteps⟩, hodd⟩
  · omega
  · omega
  · rw [htwo] at hqstep
    rcases hsteps with hsteps | hsteps
    · rw [hsteps] at hstep
      omega
    · omega

end CaseRun

/-! ## The tables -/

theorem isSound_upperRuns : upperRuns.all CaseRun.isSound = true := by decide +kernel

theorem isClear_upperRuns : (upperRuns.all fun r => upperRuns.all r.isClear) = true := by decide +kernel

theorem isClear_upperExpansions :
    (upperRuns.all fun r => upperExpansions.all fun e => r.isClear ⟨e.1, e.1, 1, 0⟩) = true := by decide +kernel

/-- A character without an upper case of its own. -/
def Settled (c : Char) : Prop := upperChar c = [c]

theorem settled_toUpper {c : Char} (h : c.toNat < 128) : Settled c.toUpper := by
  have hascii : ((List.range 128).all fun n =>
      upperChar (Char.ofNat n).toUpper == [(Char.ofNat n).toUpper]) = true := by decide +kernel
  have hc := List.all_eq_true.1 hascii c.toNat (List.mem_range.2 h)
  rwa [beq_iff_eq, Char.ofNat_toNat] at hc

/-- A character that is in no table has no upper case of its own. -/
theorem settled_of_tables {c : Char} (hruns : ∀ q ∈ upperRuns, q.image? c.toNat = none)
    (hexpansions : ∀ e ∈ upperExpansions, c.toNat ≠ e.1) : Settled c := by
  unfold Settled upperChar
  split
  · -- the small letters of ASCII are in the tables as well
    have hletter := hruns ⟨97, 122, 1, -32⟩ (List.mem_map.2 ⟨(97, 122, 1, -32), List.mem_cons_self, rfl⟩)
    have hsmall : ¬('a'.val ≤ c.val ∧ c.val ≤ 'z'.val) := by
      rintro ⟨hlow, hhigh⟩
      rw [CaseRun.image?, if_pos ⟨hlow, hhigh, Nat.mod_one _⟩] at hletter
      cases hletter
    have hupper : c.toUpper = c := dif_neg hsmall
    rw [hupper]
  · have hlookup : upperExpansions.lookup c.toNat = none :=
      List.lookup_eq_none_iff.2 fun e he => bne_iff_ne.2 (hexpansions e he)
    rw [mapCase, List.findSome?_eq_none_iff.2 hruns, hlookup]

/-- What a run leads to has no upper case of its own. -/
theorem settled_of_image? {r : CaseRun} (hr : r ∈ upperRuns) {n : Nat} {c : Char} (h : r.image? n = some c) :
    Settled c := by
  have hsound := List.all_eq_true.1 isSound_upperRuns r hr
  refine settled_of_tables (fun q hq => ?_) fun e he heq => ?_
  · have hclear := List.all_eq_true.1 (List.all_eq_true.1 isClear_upperRuns r hr) q hq
    exact CaseRun.image?_of_isClear hsound hclear h
  · have hclear := List.all_eq_true.1 (List.all_eq_true.1 isClear_upperExpansions r hr) e he
    have hnone := CaseRun.image?_of_isClear hsound hclear h
    simp [CaseRun.image?, heq] at hnone

theorem mem_of_lookup {n : Nat} {ds : List Nat} (h : upperExpansions.lookup n = some ds) :
    (n, ds) ∈ upperExpansions := by
  obtain ⟨before, after, hsplit, -⟩ := List.lookup_eq_some_iff.1 h
  simp [hsplit]

/-- Expansions hold characters without an upper case of their own, and at least one. -/
theorem settled_expansions :
    (upperExpansions.all fun e => e.2 != [] && (e.2.map Char.ofNat).all fun c => upperChar c == [c]) = true := by
  decide +kernel

theorem settled_of_lookup {n : Nat} {ds : List Nat} (h : upperExpansions.lookup n = some ds) :
    ds ≠ [] ∧ ∀ c ∈ ds.map Char.ofNat, Settled c := by
  have hds := List.all_eq_true.1 settled_expansions (n, ds) (mem_of_lookup h)
  simp only [Bool.and_eq_true, bne_iff_ne, List.all_eq_true, beq_iff_eq] at hds
  exact hds

/-- The mapping gives some characters, which have no upper case of their own. -/
theorem settled_upperChar (c : Char) : upperChar c ≠ [] ∧ ∀ d ∈ upperChar c, Settled d := by
  unfold upperChar
  split
  · next hc => exact ⟨List.cons_ne_nil _ _, List.forall_mem_singleton.2 (settled_toUpper hc)⟩
  · next hc =>
    unfold mapCase
    split
    · next d hsome =>
      obtain ⟨r, hr, himage⟩ := List.exists_of_findSome?_eq_some hsome
      exact ⟨List.cons_ne_nil _ _, List.forall_mem_singleton.2 (settled_of_image? hr himage)⟩
    · next hruns =>
      split
      · next ds hsome =>
        obtain ⟨hne, hsettled⟩ := settled_of_lookup hsome
        exact ⟨by simpa using hne, hsettled⟩
      · next hnone =>
        refine ⟨List.cons_ne_nil _ _, List.forall_mem_singleton.2 ?_⟩
        rw [Settled, upperChar, if_neg hc, mapCase, hruns, hnone]

/-! ## Texts -/

theorem flatMap_of_settled {cs : List Char} (h : ∀ c ∈ cs, Settled c) : cs.flatMap upperChar = cs := by
  induction cs with
  | nil => rfl
  | cons c cs ih =>
    obtain ⟨hc, hcs⟩ := List.forall_mem_cons.1 h
    rw [List.flatMap_cons, hc, ih hcs, List.singleton_append]

/-- A text in upper case stays as it is. -/
theorem upper_upper (s : String) : upper (upper s) = upper s := by
  have hsettled : ∀ d ∈ s.toList.flatMap upperChar, Settled d := by
    intro d hd
    obtain ⟨c, -, hc⟩ := List.mem_flatMap.1 hd
    exact (settled_upperChar c).2 d hc
  rw [upper, upper, String.toList_ofList, flatMap_of_settled hsettled]

/-- Nothing but the empty text is empty in upper case. -/
theorem upper_ne_empty {s : String} (h : s ≠ "") : upper s ≠ "" := by
  obtain ⟨c, cs, hcs⟩ := List.exists_cons_of_ne_nil (mt String.toList_eq_nil_iff.1 h)
  intro hempty
  have hnil : s.toList.flatMap upperChar = [] := by simpa [upper] using hempty
  exact (settled_upperChar c).1 (List.flatMap_eq_nil_iff.1 hnil c (by simp [hcs]))

end ChatRelay.Text
