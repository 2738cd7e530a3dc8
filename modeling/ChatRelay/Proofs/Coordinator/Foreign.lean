import ChatRelay.Proofs.Coordinator.Growth

/-!
# A value that is no snapshot counts as none

What is stored under the key of the shelf may be of another version or from another program. A save forgets it, and a
restore removes it or ignores it. So two runs from stores that differ in nothing else are alike.

- `Replies`: a store that never fails, and an agent and a surface that may answer anything;
- `Apart`: two stores that differ in such a value;
- `carries_restore_iff`: what a restore comes to that finds such a value;
- `Carries.apart`: a handler does the same over both stores, but for the report of a restore;
- `Series.apart`: so do all handlers of a sequence;
- `foreign_as_none`: a run that begins with such a value against one that begins with none.
-/

namespace ChatRelay.Coordinator

/-! ## Surroundings -/

section

variable {α : Type} (others : α → Call → Except Fault Answer → α → Prop)

/-- The store carries out every call on it at once. To the other calls the agent and the surface answer as the relation
tells. -/
inductive Replies : α × Values → Call → Except Fault Answer → α × Values → Prop
  | stored {x : α} {store store' : Values} {call : Call} {a : Answer} :
      carryOut store call = some (a, store') → Replies (x, store) call (.ok a) (x, store')
  | other {x x' : α} {store : Values} {call : Call} {a : Except Fault Answer} :
      onStore call = false → others x call a x' → Replies (x, store) call a (x', store)

variable {others}

theorem replies_stored_iff {x : α} {store store' : Values} {call : Call} {a : Except Fault Answer} {b : Answer}
    {w : α × Values} (h : carryOut store call = some (b, store')) :
    Replies others (x, store) call a w ↔ a = .ok b ∧ w = (x, store') := by
  constructor
  · intro hr
    cases hr with
    | stored h' =>
      obtain ⟨rfl, rfl⟩ := Prod.mk.inj (Option.some.inj (h.symm.trans h'))
      exact ⟨rfl, rfl⟩
    | other hcall => cases call <;> simp [carryOut, onStore] at h hcall
  · rintro ⟨rfl, rfl⟩
    exact .stored h

theorem replies_other_iff {x : α} {store : Values} {call : Call} {a : Except Fault Answer} {w : α × Values}
    (h : onStore call = false) : Replies others (x, store) call a w ↔ ∃ x', others x call a x' ∧ w = (x', store) := by
  constructor
  · intro hr
    cases hr with
    | stored h' => cases call <;> simp [carryOut, onStore] at h h'
    | other _ hothers => exact ⟨_, hothers, rfl⟩
  · rintro ⟨x', hothers, rfl⟩
    exact .other h hothers

end

/-! ## A restore that finds no snapshot -/

/-- What a restore reports that finds a value which is no snapshot. -/
def emptyHanded (shelf : Shelf) : Json → Restoration
  | .obj members => .versionMismatch ((Json.obj members).getD "version") shelf.version
  | _ => .noState

/-- The call that such a value costs: an object is removed. -/
def removal (shelf : Shelf) : Json → List (Call × Except Fault Answer)
  | .obj _ => [(.deleteValue shelf.key, .ok .done)]
  | _ => []

/-- The store after such a value was found. -/
def cleared (shelf : Shelf) (store : Values) : Values :=
  match store shelf.key with
  | .obj _ => Function.update store shelf.key .null
  | _ => store

section

variable {α : Type} {others : α → Call → Except Fault Answer → α → Prop} {x : α} {c c' : Coordinator} {store : Values}
  {d : List (Call × Except Fault Answer)} {w : α × Values} {result : Except Fault Outcome}

theorem not_isSnapshot_obj {shelf : Shelf} {members : List (String × Json)} (h : ¬ IsSnapshot shelf (.obj members)) :
    shelf.isCurrent ((Json.obj members).getD "version") = false := by
  by_contra hcurrent
  exact h ⟨members, rfl, by simpa using hcurrent⟩

/-- A save carries no state of the surface forward from a value that is no snapshot. -/
theorem storedUiState_foreign {shelf : Shelf} {v : Json} (h : ¬ IsSnapshot shelf v) :
    shelf.storedUiState v = .null := by
  cases v with
  | obj members =>
    show (if shelf.isCurrent ((Json.obj members).getD "version") then _ else Json.null) = _
    rw [not_isSnapshot_obj h]
    rfl
  | _ => rfl

/-- So a save goes on from any two of them in the same way. -/
theorem resume_recalling_foreign {v : Json} (h : ¬ IsSnapshot c.shelf v) (purpose : Purpose) :
    c.resume (.ok (.value v)) (.saving purpose .recalling) =
      c.resume (.ok (.value .null)) (.saving purpose .recalling) := by
  have hnull : c.shelf.storedUiState .null = .null := rfl
  simp [resume, Save.resume, Answer.toValue, storedUiState_foreign h, hnull]

/-- The state of the surface is delivered, and the restore is reported. -/
theorem carries_announce_iff {t : Turn} {m : Restoration}
    (hn : t.next = .waiting (.deliver (.restoreState m.uiState)) (.announcing m)) :
    Carries (Replies others) t (x, store) d c' w result ↔ ∃ a x', others x (.deliver (.restoreState m.uiState)) a x' ∧
      d = [(.deliver (.restoreState m.uiState), a)] ∧ c' = t.coordinator ∧ w = (x', store) ∧
      result = a.map fun _ => .stateRestored m := by
  have hend (a : Except Fault Answer) : (t.coordinator.resume a (.announcing m)).coordinator = t.coordinator ∧
      (t.coordinator.resume a (.announcing m)).next = .finished (a.map fun _ => .stateRestored m) := by
    cases a <;> exact ⟨rfl, rfl⟩
  rw [carries_waiting_iff hn]
  constructor
  · rintro ⟨a, w₁, rest, hreply, rfl, hrest⟩
    obtain ⟨x', hothers, rfl⟩ := (replies_other_iff rfl).1 hreply
    obtain ⟨rfl, rfl, rfl, rfl⟩ := (carries_finished_iff (hend a).2).1 hrest
    exact ⟨a, x', hothers, rfl, (hend a).1, rfl, rfl⟩
  · rintro ⟨a, x', hothers, rfl, rfl, rfl, rfl⟩
    refine ⟨a, _, [], (replies_other_iff rfl).2 ⟨x', hothers, rfl⟩, rfl, ?_⟩
    exact (carries_finished_iff (hend a).2).2 ⟨rfl, (hend a).1.symm, rfl, rfl⟩

/-- A restore that finds a value which is no snapshot: an object is removed, a state of null is delivered, and no
session is resumed. -/
theorem carries_restore_iff {v : Json} (hv : store c.shelf.key = v) (hforeign : ¬ IsSnapshot c.shelf v) :
    Carries (Replies others) (c.resume (.ok (.value v)) (.restoring .reading)) (x, store) d c' w result ↔
      ∃ a x', others x (.deliver (.restoreState .null)) a x' ∧
        d = removal c.shelf v ++ [(.deliver (.restoreState .null), a)] ∧ c' = c ∧
        w = (x', cleared c.shelf store) ∧ result = a.map fun _ => .stateRestored (emptyHanded c.shelf v) := by
  cases v with
  | obj members =>
    have hold := not_isSnapshot_obj hforeign
    have hturn : c.resume (.ok (.value (.obj members))) (.restoring .reading) =
        ⟨c, [.snapshotDiscarded ((Json.obj members).getD "version") c.shelf.version],
          .waiting (.deleteValue c.shelf.key) (.restoring (.discarding ((Json.obj members).getD "version")))⟩ := by
      simp [resume, Restore.resume, Restore.read, Answer.toValue, hold, afterRestore, await, Turn.report]
    have hcleared : cleared c.shelf store = Function.update store c.shelf.key .null := by
      simp [cleared, hv]
    rw [hturn, carries_waiting_iff rfl, hcleared]
    constructor
    · rintro ⟨a, w₁, rest, hreply, rfl, hrest⟩
      obtain ⟨rfl, rfl⟩ := (replies_stored_iff rfl).1 hreply
      obtain ⟨a, x', hothers, rfl, rfl, rfl, rfl⟩ :=
        (carries_announce_iff (m := emptyHanded c.shelf (.obj members)) rfl).1 hrest
      exact ⟨a, x', hothers, rfl, rfl, rfl, rfl⟩
    · rintro ⟨a, x', hothers, rfl, rfl, rfl, rfl⟩
      refine ⟨_, _, _, (replies_stored_iff rfl).2 ⟨rfl, rfl⟩, rfl, ?_⟩
      exact (carries_announce_iff (m := emptyHanded _ (.obj members)) rfl).2 ⟨a, x', hothers, rfl, rfl, rfl, rfl⟩
  | _ =>
    have hcleared : cleared c.shelf store = store := by simp [cleared, hv]
    rw [hcleared]
    exact carries_announce_iff (m := .noState) rfl

end

/-! ## One handler over two stores -/

/-- Two stores that differ in a value that is a snapshot in neither. -/
structure Apart (shelf : Shelf) (s s' : Values) : Prop where
  differ : s ≠ s'
  left : ¬ IsSnapshot shelf (s shelf.key)
  right : ¬ IsSnapshot shelf (s' shelf.key)
  elsewhere : ∀ key, key ≠ shelf.key → s key = s' key

/-- Whether a call counts for what two runs have in common: all calls do but lookups and removals in the store. -/
def telling (e : Call × Except Fault Answer) : Bool :=
  match e.1 with
  | .getValue _ => false
  | .deleteValue _ => false
  | _ => true

/-- Whether a call writes to the store. -/
def writes (e : Call × Except Fault Answer) : Bool :=
  match e.1 with
  | .updateValue _ _ => true
  | _ => false

theorem removal_quiet (shelf : Shelf) (v : Json) :
    (removal shelf v).filter telling = [] ∧ ∀ e ∈ removal shelf v, writes e = false := by
  cases v <;> simp [removal, telling, writes]

/-- The value of the shelf is the same as before, or was removed. -/
def Remains (shelf : Shelf) (s s₁ : Values) : Prop := s₁ shelf.key = s shelf.key ∨ s₁ shelf.key = .null

/-- A request has been handled alike over two stores. -/
structure Alike (shelf : Shelf) (r : Request) (s s' : Values) (d d' : List (Call × Except Fault Answer))
    (result result' : Except Fault Outcome) (s₁ s₁' : Values) : Prop where
  calls : d.filter telling = d'.filter telling
  result : result = result' ∨ r.Asks .requestSavedState ∧
    result = .ok (.stateRestored (emptyHanded shelf (s shelf.key))) ∧
    result' = .ok (.stateRestored (emptyHanded shelf (s' shelf.key)))
  stores : s₁ = s₁' ∨ (∀ e ∈ d, writes e = false) ∧ Apart shelf s s' ∧ Apart shelf s₁ s₁' ∧ Remains shelf s s₁ ∧
    Remains shelf s' s₁'

section

variable {shelf : Shelf} {s s' : Values}

theorem Apart.symm (h : Apart shelf s s') : Apart shelf s' s :=
  ⟨h.differ.symm, h.right, h.left, fun key hkey => (h.elsewhere key hkey).symm⟩

/-- A value for the key of the shelf makes such stores equal. -/
theorem Apart.update_eq (h : Apart shelf s s') (v : Json) :
    Function.update s shelf.key v = Function.update s' shelf.key v := by
  funext key
  by_cases hkey : key = shelf.key
  · subst hkey
    simp
  · simp [hkey, h.elsewhere key hkey]

theorem cleared_cases (shelf : Shelf) (s : Values) :
    cleared shelf s = s ∨ cleared shelf s = Function.update s shelf.key .null := by
  unfold cleared
  split
  · exact .inr rfl
  · exact .inl rfl

theorem cleared_remains (shelf : Shelf) (s : Values) : Remains shelf s (cleared shelf s) := by
  rcases cleared_cases shelf s with h | h <;> rw [h]
  · exact .inl rfl
  · exact .inr (by simp)

theorem cleared_elsewhere (s : Values) {key : String} (hkey : key ≠ shelf.key) : cleared shelf s key = s key := by
  rcases cleared_cases shelf s with h | h <;> simp [h, hkey]

theorem not_isSnapshot_null (shelf : Shelf) : ¬ IsSnapshot shelf .null := by
  rintro ⟨members, hnull, -⟩
  cases hnull

theorem Remains.foreign {s₁ : Values} (h : Remains shelf s s₁) (hs : ¬ IsSnapshot shelf (s shelf.key)) :
    ¬ IsSnapshot shelf (s₁ shelf.key) := by
  rcases h with h | h
  · rwa [h]
  · rw [h]
    exact not_isSnapshot_null shelf

/-- Stores whose value of the shelf was found and cleared are equal, or differ as before. -/
theorem Apart.cleared (h : Apart shelf s s') :
    cleared shelf s = cleared shelf s' ∨ Apart shelf (cleared shelf s) (cleared shelf s') := by
  by_cases heq : Coordinator.cleared shelf s = Coordinator.cleared shelf s'
  · exact .inl heq
  · refine .inr ⟨heq, (cleared_remains shelf s).foreign h.left, (cleared_remains shelf s').foreign h.right, ?_⟩
    intro key hkey
    rw [cleared_elsewhere s hkey, cleared_elsewhere s' hkey, h.elsewhere key hkey]

end

/-- The calls of a handler on the store: it looks the value of the shelf up, or changes it. -/
theorem Point.Asks.ofStore {shelf : Shelf} {shut : Bool} {pt : Point} {call : Call} (h : pt.Asks shelf shut call)
    (hcall : onStore call = true) :
    call = .getValue shelf.key ∧ ((∃ purpose, pt = .saving purpose .recalling) ∨ pt = .restoring .reading) ∨
      ∃ v, ∀ store, carryOut store call = some (.done, Function.update store shelf.key v) := by
  cases pt with
  | saving purpose pt =>
    obtain ⟨rfl, -⟩ := h
    cases pt with
    | recalling => exact .inl ⟨rfl, .inl ⟨purpose, rfl⟩⟩
    | reading => cases hcall
    | writing p => exact .inr ⟨_, fun store => rfl⟩
  | restoring pt =>
    cases pt with
    | reading =>
      obtain rfl : call = .getValue shelf.key := h
      exact .inl ⟨rfl, .inr rfl⟩
    | discarding found =>
      obtain rfl : call = .deleteValue shelf.key := h
      exact .inr ⟨.null, fun store => rfl⟩
    | resuming progress tab session rest =>
      obtain ⟨state, rfl⟩ := h
      cases hcall
  | relaying p pt =>
    obtain rfl : call = relayCall p pt := h
    cases pt <;> cases hcall
  | creating tab =>
    obtain rfl : call = .createSession := h
    cases hcall
  | _ =>
    obtain rfl : call = .deliver _ := h
    cases hcall

section

variable {α : Type} {others : α → Call → Except Fault Answer → α → Prop} {shelf : Shelf} {shut : Bool} {r : Request}

/-- What two runs have in common when a call comes before them that writes nothing. -/
theorem Alike.cons {s s' s₁ s₁' : Values} {d d' : List (Call × Except Fault Answer)}
    {result result' : Except Fault Outcome} {e e' : Call × Except Fault Answer}
    (h : Alike shelf r s s' d d' result result' s₁ s₁') (hsame : e = e' ∨ telling e = false ∧ telling e' = false)
    (hwrites : writes e = false) : Alike shelf r s s' (e :: d) (e' :: d') result result' s₁ s₁' := by
  refine ⟨?_, h.result, h.stores.imp_right fun ⟨hnone, hrest⟩ => ⟨?_, hrest⟩⟩
  · rcases hsame with rfl | ⟨he, he'⟩
    · simp only [List.filter_cons, h.calls]
    · simp [he, he', h.calls]
  · exact List.forall_mem_cons.2 ⟨hwrites, hnone⟩

/-- A restore goes alike over both stores. -/
theorem carries_restore_apart {x : α} {w : α × Values} {d : List (Call × Except Fault Answer)} {c c' : Coordinator}
    {result : Except Fault Outcome} {s s' : Values} (hapart : Apart c.shelf s s') (hr : r.Asks .requestSavedState)
    (h : Carries (Replies others) (c.resume (.ok (.value (s c.shelf.key))) (.restoring .reading)) (x, s) d c' w
      result) :
    ∃ d' result' s₁',
      Carries (Replies others) (c.resume (.ok (.value (s' c.shelf.key))) (.restoring .reading)) (x, s') d'
      c' (w.1, s₁') result' ∧ Alike c.shelf r s s' d d' result result' w.2 s₁' := by
  obtain ⟨a, x', hothers, rfl, rfl, rfl, rfl⟩ := (carries_restore_iff rfl hapart.left).1 h
  refine ⟨_, _, _, (carries_restore_iff rfl hapart.right).2 ⟨a, x', hothers, rfl, rfl, rfl, rfl⟩, ?_, ?_, ?_⟩
  · simp [(removal_quiet _ _).1]
  · cases a with
    | error f => exact .inl rfl
    | ok a => exact .inr ⟨hr, rfl, rfl⟩
  · refine hapart.cleared.imp_right fun hcleared => ⟨?_, hapart, hcleared, cleared_remains _ s, cleared_remains _ s'⟩
    intro e he
    rcases List.mem_append.1 he with he | he
    · exact (removal_quiet _ _).2 e he
    · obtain rfl := List.mem_singleton.1 he
      rfl

/-- **A handler goes alike over both stores.** -/
theorem Carries.apart {t : Turn} {w w₁ : α × Values} {d : List (Call × Except Fault Answer)} {c : Coordinator}
    {result : Except Fault Outcome} (h : Carries (Replies others) t w d c w₁ result) (hproper : t.Proper shelf shut)
    (hserves : t.Serves r) {s' : Values} (hapart : Apart shelf w.2 s') : ∃ d' result' s₁',
      Carries (Replies others) t (w.1, s') d' c (w₁.1, s₁') result' ∧
      Alike shelf r w.2 s' d d' result result' w₁.2 s₁' := by
  induction h generalizing s' with
  | @finished t w result hn =>
    exact ⟨[], result, s', .finished hn, rfl, .inl rfl, .inr ⟨by simp, hapart, hapart, .inl rfl, .inl rfl⟩⟩
  | @waiting t w w' w'' call pt a d c result hn hreply hrest ih =>
    obtain ⟨x, s⟩ := w
    obtain ⟨rfl, rfl, hasks⟩ := hproper
    have hask := hasks call pt hn
    have hserve := hserves call pt hn
    have hproper' := proper_resume t.coordinator a hask
    have hserves' := serves_resume t.coordinator a hserve
    cases hcall : onStore call with
    | false =>
      obtain ⟨x', hothers, rfl⟩ := (replies_other_iff hcall).1 hreply
      obtain ⟨d', result', s₁', hrun, halike⟩ := ih hproper' hserves' hapart
      refine ⟨_, result', s₁', .waiting hn (.other hcall hothers) hrun, halike.cons (.inl rfl) ?_⟩
      cases call <;> first | rfl | cases hcall
    | true =>
      rcases hask.ofStore hcall with ⟨rfl, hpt⟩ | ⟨v, hchange⟩
      · obtain ⟨rfl, rfl⟩ := (replies_stored_iff rfl).1 hreply
        rcases hpt with ⟨purpose, rfl⟩ | rfl
        · -- Whatever such a value holds, no state of the surface is carried forward.
          obtain ⟨d', result', s₁', hrun, halike⟩ := ih hproper' hserves' hapart
          refine ⟨_, result', s₁', .waiting hn (.stored rfl) ?_, halike.cons (.inr ⟨rfl, rfl⟩) rfl⟩
          rwa [resume_recalling_foreign hapart.left, ← resume_recalling_foreign hapart.right] at hrun
        · obtain ⟨d', result', s₁', hrun, halike⟩ := carries_restore_apart hapart hserve hrest
          exact ⟨_, result', s₁', .waiting hn (.stored rfl) hrun, halike.cons (.inr ⟨rfl, rfl⟩) rfl⟩
      · -- The change makes the stores equal.
        obtain ⟨rfl, rfl⟩ := (replies_stored_iff (hchange s)).1 hreply
        refine ⟨_, result, w''.2, .waiting hn (.stored (hchange s')) ?_, rfl, .inl rfl, .inl rfl⟩
        rw [← hapart.update_eq v]
        exact hrest

end

/-! ## Requests over two stores -/

/-- Whether a snapshot was written while a request was handled. -/
def Episode.Saves {σ : Type} (e : Episode σ) : Prop := ∃ call ∈ e.dialogue, writes call = true

section

variable {α : Type}

/-- Two runs that go alike, from two stores on. -/
inductive Alongside (shelf : Shelf) : List Request → Values → Values → List (Episode (α × Values)) →
    List (Episode (α × Values)) → Prop
  | nil {s s' : Values} : Alongside shelf [] s s' [] []
  | cons {r : Request} {rest : List Request} {s s' : Values} {e e' : Episode (α × Values)}
      {es es' : List (Episode (α × Values))} : e.after.coordinator = e'.after.coordinator →
      e.after.outside.1 = e'.after.outside.1 →
      Alike shelf r s s' e.dialogue e'.dialogue e.result e'.result e.after.outside.2 e'.after.outside.2 →
      Alongside shelf rest e.after.outside.2 e'.after.outside.2 es es' →
      Alongside shelf (r :: rest) s s' (e :: es) (e' :: es')

/-- How a request goes over a value that is no snapshot, and over none. -/
structure Episode.Matches (shelf : Shelf) (r : Request) (e e' : Episode (α × Values)) : Prop where
  coordinator : e.after.coordinator = e'.after.coordinator
  agent : e.after.outside.1 = e'.after.outside.1
  calls : e.dialogue.filter telling = e'.dialogue.filter telling
  result : e.result = e'.result ∨ r.Asks .requestSavedState ∧
    (∃ found, e.result = .ok (.stateRestored (.versionMismatch found shelf.version))) ∧
    e'.result = .ok (.stateRestored .noState)
  elsewhere : ∀ key, key ≠ shelf.key → e.after.outside.2 key = e'.after.outside.2 key

/-- How a run goes over a value that is no snapshot, and over none. From the first save on the stores are equal. -/
structure Matched (shelf : Shelf) (requests : List Request) (es es' : List (Episode (α × Values))) : Prop where
  length : es.length = es'.length
  episodes : ∀ (k : Nat) r (e e' : Episode (α × Values)), requests[k]? = some r → es[k]? = some e → es'[k]? = some e' →
    e.Matches shelf r e'
  saved : ∀ (k : Nat) (e e' : Episode (α × Values)), es[k]? = some e → es'[k]? = some e' →
    (∃ j ≤ k, ∃ e₀ : Episode (α × Values), es[j]? = some e₀ ∧ e₀.Saves) → e.after.outside.2 = e'.after.outside.2

variable {others : α → Call → Except Fault Answer → α → Prop} {shelf : Shelf} {r : Request} {requests : List Request}
  {s s' : Values} {es es' : List (Episode (α × Values))}

theorem Alike.refl (d : List (Call × Except Fault Answer)) (result : Except Fault Outcome) (s₁ : Values) :
    Alike shelf r s s' d d result result s₁ s₁ := ⟨rfl, .inl rfl, .inl rfl⟩

theorem Alike.symm {d d' : List (Call × Except Fault Answer)} {result result' : Except Fault Outcome} {s₁ s₁' : Values}
    (h : Alike shelf r s s' d d' result result' s₁ s₁') : Alike shelf r s' s d' d result' result s₁' s₁ := by
  refine ⟨h.calls.symm, ?_, ?_⟩
  · exact h.result.imp Eq.symm fun ⟨hr, hresult, hresult'⟩ => ⟨hr, hresult', hresult⟩
  · refine h.stores.imp Eq.symm fun ⟨hnone, hapart, hafter, hremains, hremains'⟩ =>
      ⟨fun e he => ?_, hapart.symm, hafter.symm, hremains', hremains⟩
    -- A call that writes is one that counts.
    by_contra hwrites
    have htelling : telling e = true := by
      obtain ⟨call, a⟩ := e
      cases call <;> simp_all [writes, telling]
    have hmem : e ∈ d.filter telling := h.calls ▸ List.mem_filter.2 ⟨he, htelling⟩
    exact hwrites (hnone e (List.mem_filter.1 hmem).1)

theorem Alongside.symm (h : Alongside shelf requests s s' es es') : Alongside shelf requests s' s es' es := by
  induction h with
  | nil => exact .nil
  | cons hcoordinator hagent halike _ ih => exact .cons hcoordinator.symm hagent.symm halike.symm ih

/-- Over one store there is one run. -/
theorem Alongside.of_series [Host] {x : Moment (α × Values)} (h : Series (Replies others) requests x es) (s : Values) :
    Alongside shelf requests s s es es := by
  induction h generalizing s with
  | nil => exact .nil
  | cons _ _ ih => exact .cons rfl rfl (.refl _ _ _) (ih _)

/-- A handler leaves the shelf. -/
theorem shelf_of_carries [Host] {c c' : Coordinator} {w w' : α × Values} {d : List (Call × Except Fault Answer)}
    {result : Except Fault Outcome} (h : Carries (Replies others) (c.begin r) w d c' w' result) :
    c'.shelf = c.shelf := by
  have hkeep {t : Turn} {w w' : α × Values} {call : Call} {pt : Point} {a : Except Fault Answer}
      (hp : ∃ shut, t.Proper c.shelf shut) (hn : t.next = .waiting call pt) (_ : Replies others w call a w') :
      ∃ shut, (t.coordinator.resume a pt).Proper c.shelf shut := by
    obtain ⟨shut, hkept, rfl, hasks⟩ := hp
    rw [← hkept] at hasks ⊢
    exact ⟨_, proper_resume t.coordinator a (hasks call pt hn)⟩
  obtain ⟨t, rfl, -, shut, hproper⟩ := h.preserves (P := fun t _ => ∃ shut, t.Proper c.shelf shut) hkeep
    ⟨_, proper_begin c r⟩
  exact hproper.kept

/-- **Requests go alike over both stores.** -/
theorem Series.apart [Host] {x : Moment (α × Values)} (h : Series (Replies others) requests x es)
    (hshelf : x.coordinator.shelf = shelf) (hstores : x.outside.2 = s' ∨ Apart shelf x.outside.2 s') : ∃ es',
      Series (Replies others) requests ⟨x.coordinator, (x.outside.1, s')⟩ es' ∧
      Alongside shelf requests x.outside.2 s' es es' := by
  induction h generalizing s' with
  | nil x => exact ⟨[], .nil _, .nil⟩
  | @cons r rest x e es hcarries hrest ih =>
    have hshelf' : e.after.coordinator.shelf = shelf := (shelf_of_carries hcarries).trans hshelf
    rcases hstores with rfl | hapart
    · exact ⟨e :: es, .cons hcarries hrest, .of_series (.cons hcarries hrest) _⟩
    · obtain ⟨d', result', s₁', hrun, halike⟩ := hcarries.apart (hshelf ▸ proper_begin x.coordinator r)
        (serves_begin x.coordinator r) hapart
      obtain ⟨es', hseries, halong⟩ := ih hshelf' (halike.stores.imp_right fun h => h.2.2.1)
      exact ⟨⟨d', result', e.after.coordinator, (e.after.outside.1, s₁')⟩ :: es', .cons hrun hseries,
        .cons rfl rfl halike halong⟩

/-- Runs that go alike from one store on leave equal stores. -/
theorem Alongside.equal (h : Alongside shelf requests s s' es es') (hs : s = s') {k : Nat}
    {e e' : Episode (α × Values)} (he : es[k]? = some e) (he' : es'[k]? = some e') :
    e.after.outside.2 = e'.after.outside.2 := by
  induction h generalizing k with
  | nil => cases he
  | cons _ _ halike _ ih =>
    have hafter := halike.stores.resolve_right fun hstores => hstores.2.1.differ hs
    cases k with
    | zero =>
      obtain rfl := Option.some.inj he
      obtain rfl := Option.some.inj he'
      exact hafter
    | succ k => exact ih hafter he he'

/-- What runs that go alike have in common, when nothing is stored for one of them. -/
theorem Alongside.matched (h : Alongside shelf requests s s' es es') (hs : s = s' ∨ s' shelf.key = .null) :
    Matched shelf requests es es' := by
  induction h with
  | nil => exact ⟨rfl, fun k r e e' hr => absurd hr (by simp), fun k e e' he => absurd he (by simp)⟩
  | @cons r rest s s' e e' es es' hcoordinator hagent halike halong ih =>
    have hnext : e.after.outside.2 = e'.after.outside.2 ∨ e'.after.outside.2 shelf.key = .null := by
      rcases halike.stores with heq | ⟨-, hapart, -, -, hremains⟩
      · exact .inl heq
      · exact .inr (hremains.elim (fun h => h.trans (hs.resolve_left hapart.differ)) id)
    have hmatches : e.Matches shelf r e' := {
      coordinator := hcoordinator
      agent := hagent
      calls := halike.calls
      result := by
        rcases halike.result with heq | ⟨hr, hresult, hresult'⟩
        · exact .inl heq
        rcases hs with rfl | hnull
        · exact .inl (hresult.trans hresult'.symm)
        rw [hnull] at hresult'
        cases hv : s shelf.key with
        | obj members =>
          rw [hv] at hresult
          exact .inr ⟨hr, ⟨_, hresult⟩, hresult'⟩
        | _ =>
          rw [hv] at hresult
          exact .inl (hresult.trans hresult'.symm)
      elsewhere := by
        rcases halike.stores with heq | ⟨-, -, hafter, -⟩
        · exact fun key _ => congrFun heq key
        · exact hafter.elsewhere }
    have hsaves (he : e.Saves) : e.after.outside.2 = e'.after.outside.2 := by
      obtain ⟨call, hcall, hwrites⟩ := he
      rcases halike.stores with heq | ⟨hnone, -⟩
      · exact heq
      · rw [hnone call hcall] at hwrites
        cases hwrites
    obtain ⟨hlength, hepisodes, hsaved⟩ := ih hnext
    refine ⟨congrArg (· + 1) hlength, ?_, ?_⟩
    · rintro (_ | k) r' f f' hr hf hf'
      · obtain rfl := Option.some.inj hr
        obtain rfl := Option.some.inj hf
        obtain rfl := Option.some.inj hf'
        exact hmatches
      · exact hepisodes k r' f f' hr hf hf'
    · rintro (_ | k) f f' hf hf' ⟨j, hj, f₀, hf₀, hf₀saves⟩
      · obtain rfl : j = 0 := Nat.le_zero.1 hj
        obtain rfl := Option.some.inj hf
        obtain rfl := Option.some.inj hf'
        obtain rfl := Option.some.inj hf₀
        exact hsaves hf₀saves
      · cases j with
        | zero =>
          obtain rfl := Option.some.inj hf₀
          exact halong.equal (hsaves hf₀saves) hf hf'
        | succ j => exact hsaved k f f' hf hf' ⟨j, Nat.le_of_succ_le_succ hj, f₀, hf₀, hf₀saves⟩

end

/-! ## A restore that reports another version -/

section

variable {α : Type} {others : α → Call → Except Fault Answer → α → Prop} {shelf : Shelf}

/-- A restore that has found a snapshot: it waits for a session to be resumed, or has restored what it found. -/
def Resuming : Next Call Restore.Point Restoration → Prop
  | .waiting _ (.resuming _ _ _ _) => True
  | .finished (.ok (.restored _ _ _)) => True
  | _ => False

theorem resuming_advance (tabs : TabMap) (progress : Restore.Progress) (records : List (String × Json)) :
    Resuming (Restore.advance tabs progress records).next := by
  induction records generalizing progress with
  | nil => exact trivial
  | cons record rest ih =>
    unfold Restore.advance
    split
    · exact ih _
    · split
      · exact ih _
      · exact trivial

/-- A restore that has found a snapshot reports no other version. -/
theorem not_mismatch_of_resuming {t t' : Restore.Turn} {w w' : α × Values} {d : List (Call × Except Fault Answer)}
    {found : Json} {expected : Int} (ht : Resuming t.next) :
    ¬ Runs Restore.Turn.next (fun t => Restore.resume shelf t.tabs) (Replies others) t w d t' w'
      (.ok (.versionMismatch found expected)) := by
  intro h
  have hkeep {t : Restore.Turn} {w w' : α × Values} {call : Call} {pt : Restore.Point} {a : Except Fault Answer}
      (ht : Resuming t.next) (hn : t.next = .waiting call pt) (_ : Replies others w call a w') :
      Resuming (Restore.resume shelf t.tabs pt a).next := by
    rw [hn] at ht
    cases pt with
    | resuming progress tab session rest => cases a <;> exact resuming_advance _ _ _
    | _ => exact ht.elim
  obtain ⟨hn, hend⟩ := h.preserves (P := fun t _ => Resuming t.next) hkeep ht
  rw [hn] at hend
  exact hend

/-- A restore that reports another version has removed the value and done nothing else. -/
theorem mismatch_calls {tabs : TabMap} {t : Restore.Turn} {w w' : α × Values} {d : List (Call × Except Fault Answer)}
    {found : Json} {expected : Int} (h : Runs Restore.Turn.next (fun t => Restore.resume shelf t.tabs) (Replies others)
      (Restore.start shelf tabs) w d t w' (.ok (.versionMismatch found expected))) :
    d = [(.getValue shelf.key, .ok (.value (w.2 shelf.key))), (.deleteValue shelf.key, .ok .done)] ∧
      w' = (w.1, Function.update w.2 shelf.key .null) := by
  obtain ⟨x, store⟩ := w
  cases h with
  | finished hn => cases hn
  | waiting hn hreply hrest =>
    cases hn
    obtain ⟨rfl, rfl⟩ := (replies_stored_iff rfl).1 hreply
    have hread : Restore.resume shelf (Restore.start shelf tabs).tabs .reading (.ok (.value (store shelf.key))) =
        Restore.read shelf tabs (store shelf.key) := rfl
    rw [hread] at hrest
    cases hv : store shelf.key with
    | obj members =>
      rw [hv] at hrest
      cases hcurrent : shelf.isCurrent ((Json.obj members).getD "version") with
      | true =>
        refine absurd hrest (not_mismatch_of_resuming ?_)
        simp only [Restore.read, hcurrent, if_true]
        exact resuming_advance _ _ _
      | false =>
        simp only [Restore.read, hcurrent] at hrest
        cases hrest with
        | finished hn => cases hn
        | waiting hn hreply hrest =>
          cases hn
          obtain ⟨rfl, rfl⟩ := (replies_stored_iff rfl).1 hreply
          cases hrest with
          | finished hn => exact ⟨by rw [← hv], rfl⟩
          | waiting hn => cases hn
    | _ =>
      rw [hv] at hrest
      cases hrest with
      | finished hn => cases hn
      | waiting hn => cases hn

end

/-! ## Something foreign and nothing -/

/-- **A value that is no snapshot counts as none.** Take a run of requests that begins with such a value under the key
of the shelf, and one that begins with nothing there. To each of the first there is one of the second, and to each of
the second one of the first, such that all requests go alike: the same calls on the agent and the surface with the same
answers, the same coordinators, and the same results but that a restore may report another version instead of no
state. From the first save on the stores are equal. And a restore that reports another version has removed the value
and done nothing else. -/
theorem foreign_as_none [Host] {α : Type} (others : α → Call → Except Fault Answer → α → Prop) (c : Coordinator)
    {v : Json} (hv : ¬ IsSnapshot c.shelf v) (x : α) (store : Values) (requests : List Request) :
    (∀ es, Series (Replies others) requests ⟨c, (x, Function.update store c.shelf.key v)⟩ es →
      ∃ es', Series (Replies others) requests ⟨c, (x, Function.update store c.shelf.key .null)⟩ es' ∧
        Matched c.shelf requests es es') ∧
    (∀ es', Series (Replies others) requests ⟨c, (x, Function.update store c.shelf.key .null)⟩ es' →
      ∃ es, Series (Replies others) requests ⟨c, (x, Function.update store c.shelf.key v)⟩ es ∧
        Matched c.shelf requests es es') ∧
    ∀ tabs w d t w' found expected, Runs Restore.Turn.next (fun t => Restore.resume c.shelf t.tabs) (Replies others)
      (Restore.start c.shelf tabs) w d t w' (.ok (.versionMismatch found expected)) →
        d = [(.getValue c.shelf.key, .ok (.value (w.2 c.shelf.key))), (.deleteValue c.shelf.key, .ok .done)] ∧
        w' = (w.1, Function.update w.2 c.shelf.key .null) := by
  have hnull : Function.update store c.shelf.key .null c.shelf.key = .null := Function.update_self ..
  have hstores : Function.update store c.shelf.key v = Function.update store c.shelf.key .null ∨
      Apart c.shelf (Function.update store c.shelf.key v) (Function.update store c.shelf.key .null) := by
    by_cases heq : Function.update store c.shelf.key v = Function.update store c.shelf.key .null
    · exact .inl heq
    · refine .inr ⟨heq, by simpa using hv, by simpa using not_isSnapshot_null c.shelf, fun key hkey => ?_⟩
      simp [hkey]
  refine ⟨fun es h => ?_, fun es' h => ?_, fun tabs w d t w' found expected h => mismatch_calls h⟩
  · obtain ⟨es', hseries, halong⟩ := h.apart rfl hstores
    exact ⟨es', hseries, halong.matched (.inr hnull)⟩
  · obtain ⟨es, hseries, halong⟩ := h.apart rfl (hstores.imp Eq.symm Apart.symm)
    exact ⟨es, hseries, halong.symm.matched (.inr hnull)⟩

section

attribute [local instance] Host.sample

/-- A snapshot of a newer version is removed when the saved state is asked for, and then the surface is hidden. -/
theorem foreign_as_none_newer :
    ∃ e es es', e.result = .ok (.stateRestored (.versionMismatch (.int 2) 1)) ∧
      Series (Replies fun _ _ a _ => a = .ok .done) [.inbound savedStateMessage, .hidden]
        ⟨.new ⟨"chat", 1⟩ true, ((), Function.update (fun _ => .null) "chat" (.obj [("version", .int 2)]))⟩ (e :: es) ∧
      Series (Replies fun _ _ a _ => a = .ok .done) [.inbound savedStateMessage, .hidden]
        ⟨.new ⟨"chat", 1⟩ true, ((), Function.update (fun _ => .null) "chat" .null)⟩ es' ∧
      Matched ⟨"chat", 1⟩ [.inbound savedStateMessage, .hidden] (e :: es) es' := by
  have hforeign : ¬ IsSnapshot ⟨"chat", 1⟩ (.obj [("version", .int 2)]) := by
    rintro ⟨members, hobj, hcurrent⟩
    obtain rfl := Json.obj.inj hobj
    exact absurd hcurrent (by decide)
  have hboth := foreign_as_none (fun (_ : Unit) _ a _ => a = .ok .done) (.new ⟨"chat", 1⟩ true) hforeign ()
    (fun _ => .null) [.inbound savedStateMessage, .hidden]
  have hrestore : Carries (Replies fun (_ : Unit) _ a _ => a = .ok .done)
      (begin (.new ⟨"chat", 1⟩ true) (.inbound savedStateMessage))
      ((), Function.update (fun _ => .null) "chat" (.obj [("version", .int 2)])) _ _ _ _ :=
    .waiting rfl (.stored rfl) ((carries_restore_iff rfl hforeign).2 ⟨.ok .done, (), rfl, rfl, rfl, rfl, rfl⟩)
  have hhide (store : Values) : Carries (Replies fun (_ : Unit) _ a _ => a = .ok .done)
      (begin (.new ⟨"chat", 1⟩ true) .hidden) ((), store) _ _ _ _ :=
    .waiting rfl (.stored rfl) (.waiting rfl (.stored rfl) (.finished rfl))
  have hrun : Series (Replies fun (_ : Unit) _ a _ => a = .ok .done) [.inbound savedStateMessage, .hidden]
      ⟨.new ⟨"chat", 1⟩ true, ((), Function.update (fun _ => .null) "chat" (.obj [("version", .int 2)]))⟩
      [⟨_, _, ⟨_, _⟩⟩, ⟨_, _, ⟨_, _⟩⟩] :=
    .cons hrestore (.cons (hhide _) (.nil _))
  obtain ⟨es', hrun', hmatched⟩ := hboth.1 _ hrun
  exact ⟨_, _, es', rfl, hrun, hrun', hmatched⟩

end

end ChatRelay.Coordinator
