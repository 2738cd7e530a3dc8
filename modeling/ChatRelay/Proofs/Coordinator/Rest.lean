import ChatRelay.Proofs.Coordinator.Owing
import ChatRelay.Proofs.Coordinator.Play

/-!
# The stored snapshot at rest

Whatever the schedule, the stored snapshot is the live state whenever no save is owed.

- `Play.Steady`: the invariant of all schedules without a shutdown (`Play.steady_run`);
- `Play.steady_begin`, `Play.steady_answer`: what a begin and an answer keep, with one lemma for each kind of point;
- `Play.snapshot_at_rest`: what is stored when no handler is left.
-/

namespace ChatRelay

namespace Coordinator

namespace Play

/-- The live state of a play. -/
def live (s : Play) (shelf : Shelf) : Live :=
  ⟨s.store shelf.key, s.echo, lastState (s.scene.handlers.map (·.request)), s.scene.coordinator.tabs⟩

/-- What is true after every schedule without a shutdown: while nobody owes a save, the stored snapshot is the live
state, or nothing was ever saved. -/
structure Steady (shelf : Shelf) (s : Play) : Prop where
  asking : s.scene.Asking shelf
  serving : s.scene.Serving
  unclosed : s.scene.coordinator.closed = false
  known : ∀ b ∈ s.scene.coordinator.tabs, ∃ turns, s.echo.history b.2 = .ok turns
  fits : ∀ h ∈ s.scene.handlers, Calls (fun pt _ => pt.Fits shelf (s.live shelf)) h.status
  restorable : Restorable shelf s.scene.coordinator.tabs (s.store shelf.key)
  uiState : (∃ h ∈ s.scene.handlers, ∃ call pt, h.status = .waiting call (.saving .keeping pt)) ∨
    shelf.storedUiState (s.store shelf.key) = (s.live shelf).uiState
  settled : (∃ h ∈ s.scene.handlers, ∃ call pt, h.status = .waiting call pt ∧ pt.Owes) ∨
    (∃ records ui, s.store shelf.key = (Snapshot.mk shelf.version records ui).toJson ∧
      Mirrors s.echo s.scene.coordinator.tabs records) ∨
    s.store shelf.key = .null ∧
      ∀ h ∈ s.scene.handlers, ∀ result, h.status = .finished result → ¬ h.request.SavedBy result

theorem steady_start (shelf : Shelf) (visible : Bool) (delay : Delay) : (start shelf visible delay).Steady shelf where
  asking := Scene.asking_start shelf visible
  serving := by simp [Scene.Serving, start, Scene.start]
  unclosed := rfl
  known := fun b hb => absurd hb List.not_mem_nil
  fits := fun h hh => absurd hh List.not_mem_nil
  restorable := .inl rfl
  uiState := .inr rfl
  settled := .inr (.inr ⟨rfl, fun h hh => absurd hh List.not_mem_nil⟩)

/-- A handler has taken a turn while the others waited for deliveries and pauses. -/
structure Took [Host] (s s' : Play) (i : Nat) (r : Request) (t : Turn) : Prop where
  shift : ∃ m, s.scene.Shift m s'.scene
  coordinator : s'.scene.coordinator = t.coordinator
  self : ∃ d, s'.scene.handlers[i]? = some ⟨r, d, t.next⟩
  other : ∀ j, j ≠ i → s'.scene.handlers[j]? = s.scene.handlers[j]?
  idle : ∀ j, j ≠ i → s.busy j = false

section

variable {shelf : Shelf} {s s' : Play} {i : Nat} {r : Request} {t : Turn} {owes : Prop}

/-- A handler that waits for a delivery or a pause is not in the middle of a save or of a restore. -/
theorem fits_of_not_busy {h : Handler} {call : Call} {pt : Point} (hi : s.scene.handlers[i]? = some h)
    (hstatus : h.status = .waiting call pt) (hbusy : s.busy i = false) (hask : pt.Asks shelf false call) (l : Live) :
    pt.Fits shelf l ∧ ∀ purpose sp, pt ≠ .saving purpose sp := by
  obtain ⟨r, d, status⟩ := h
  obtain rfl : status = .waiting call pt := hstatus
  cases pt with
  | creating tab =>
    obtain rfl : call = .createSession := hask
    simp [busy, Scene.call?, hi] at hbusy
  | saving purpose pt =>
    obtain rfl : call = saveCall shelf pt := hask.1
    cases pt <;> simp [busy, Scene.call?, hi, saveCall] at hbusy
  | restoring pt =>
    cases pt with
    | reading =>
      obtain rfl : call = .getValue shelf.key := hask
      simp [busy, Scene.call?, hi] at hbusy
    | discarding found =>
      obtain rfl : call = .deleteValue shelf.key := hask
      simp [busy, Scene.call?, hi] at hbusy
    | resuming progress tab session rest =>
      obtain ⟨state, rfl⟩ := hask
      simp [busy, Scene.call?, hi] at hbusy
  | relaying p pt =>
    obtain rfl : call = relayCall p pt := hask
    cases pt with
    | opening => simp [busy, Scene.call?, hi, relayCall] at hbusy
    | pulling n => exact ⟨trivial, by simp⟩
    | closing ending => simp [busy, Scene.call?, hi, relayCall] at hbusy
  | passing p handover pt => exact ⟨trivial, by simp⟩
  | reporting p cause n pt => exact ⟨trivial, by simp⟩
  | announcing restored => exact ⟨trivial, by simp⟩
  | replaying pt => exact ⟨trivial, by simp⟩

section

variable [Host]

/-- A handler after a turn is the one that took it, or waits as before. -/
theorem Took.cases (ht : Took s s' i r t) {h : Handler} (hh : h ∈ s'.scene.handlers) :
    (∃ d, h = ⟨r, d, t.next⟩) ∨ ∃ j, j ≠ i ∧ s.scene.handlers[j]? = some h ∧ s.busy j = false := by
  obtain ⟨j, hj⟩ := List.mem_iff_getElem?.1 hh
  by_cases hij : j = i
  · subst hij
    obtain ⟨d, hd⟩ := ht.self
    exact .inl ⟨d, Option.some.inj (hj.symm.trans hd)⟩
  · exact .inr ⟨j, hij, (ht.other j hij).symm.trans hj, ht.idle j hij⟩

theorem Took.mem (ht : Took s s' i r t) : ∃ d, ⟨r, d, t.next⟩ ∈ s'.scene.handlers := by
  obtain ⟨d, hd⟩ := ht.self
  exact ⟨d, List.mem_of_getElem? hd⟩

theorem Took.asking (ht : Took s s' i r t) (h : s.Steady shelf) : s'.scene.Asking shelf := by
  obtain ⟨m, hshift⟩ := ht.shift
  exact Scene.asking_shift hshift h.asking

theorem Took.serving (ht : Took s s' i r t) (h : s.Steady shelf) : s'.scene.Serving := by
  obtain ⟨m, hshift⟩ := ht.shift
  exact Scene.serving_shift hshift h.serving

/-- Where the handlers are fitting after a turn. -/
theorem Took.fits (ht : Took s s' i r t) (h : s.Steady shelf)
    (hfits : Calls (fun pt _ => pt.Fits shelf (s'.live shelf)) t.next) :
    ∀ h ∈ s'.scene.handlers, Calls (fun pt _ => pt.Fits shelf (s'.live shelf)) h.status := by
  intro handler hh call pt hstatus
  rcases ht.cases hh with ⟨d, rfl⟩ | ⟨j, -, hj, hbusy⟩
  · exact hfits call pt hstatus
  · have hask := h.asking.asks handler (List.mem_of_getElem? hj) call pt hstatus
    rw [h.unclosed] at hask
    exact (fits_of_not_busy hj hstatus hbusy hask _).1

/-- A turn without a write: who owes a save still owes it, and what nobody has changed is still told by the store. -/
theorem steady_of_sound (h : s.Steady shelf) (ht : Took s s' i r t) (hopen : t.coordinator.closed = false)
    (hstore : s'.store = s.store) (hknown : ∀ b ∈ t.coordinator.tabs, ∃ turns, s'.echo.history b.2 = .ok turns)
    (hbound : ∀ tab, Bound s.scene.coordinator.tabs tab → Bound t.coordinator.tabs tab)
    (hui : (∃ call pt, t.next = .waiting call (.saving .keeping pt)) ∨
      shelf.storedUiState (s'.store shelf.key) = (s'.live shelf).uiState)
    (hsound : t.Sound shelf (s'.live shelf) r owes)
    (hsame : ¬ owes → (∀ handler call pt, s.scene.handlers[i]? = some handler → handler.status = .waiting call pt →
      ¬ pt.Owes) ∧ t.coordinator.tabs = s.scene.coordinator.tabs ∧ s'.echo = s.echo) : s'.Steady shelf where
  asking := ht.asking h
  serving := ht.serving h
  unclosed := by rw [ht.coordinator, hopen]
  known := by rwa [ht.coordinator]
  fits := ht.fits h fun call pt hn => (hsound.waits call pt hn).1
  restorable := by
    rw [ht.coordinator, hstore]
    refine h.restorable.imp_right fun ⟨records, ui, hsnapshot, hrecords⟩ => ⟨records, ui, hsnapshot, ?_⟩
    exact fun record hrecord => hbound _ (hrecords record hrecord)
  uiState := by
    refine hui.imp_left fun ⟨call, pt, hn⟩ => ?_
    obtain ⟨d, hmem⟩ := ht.mem
    exact ⟨_, hmem, call, pt, hn⟩
  settled := by
    by_cases howes : owes
    · cases hn : t.next with
      | finished result => exact absurd howes (hsound.ends result hn).1
      | waiting call pt =>
        obtain ⟨d, hmem⟩ := ht.mem
        exact .inl ⟨_, hmem, call, pt, hn, (hsound.waits call pt hn).2 howes⟩
    · obtain ⟨hfree, htabs, hecho⟩ := hsame howes
      rw [ht.coordinator, htabs, hecho, hstore]
      rcases h.settled with ⟨handler, hmem, call, pt, hstatus, hpt⟩ | hmirrors | ⟨hnull, hnone⟩
      · -- This handler owed nothing before, so another one does, and it has not moved.
        obtain ⟨j, hj⟩ := List.mem_iff_getElem?.1 hmem
        have hij : j ≠ i := by
          rintro rfl
          exact hfree handler call pt hj hstatus hpt
        exact .inl ⟨handler, List.mem_of_getElem? ((ht.other j hij).trans hj), call, pt, hstatus, hpt⟩
      · exact .inr (.inl hmirrors)
      · refine .inr (.inr ⟨hnull, fun handler hmem result hstatus => ?_⟩)
        rcases ht.cases hmem with ⟨d, rfl⟩ | ⟨j, -, hj, -⟩
        · exact (hsound.ends result hstatus).2
        · exact hnone handler (List.mem_of_getElem? hj) result hstatus

end

/-- The tabs that records mirror are bound. -/
theorem bound_of_mirrors {echo : Echo} {tabs : TabMap} {records : List SessionRecord} (h : Mirrors echo tabs records) :
    ∀ record ∈ records, Bound tabs record.tab := by
  intro record hrecord
  rw [← mem_keys_iff_bound]
  have hkeys : records.map (·.tab) = Assoc.keys tabs := by
    clear hrecord
    induction h with
    | nil => rfl
    | cons hr _ ih => exact congrArg₂ List.cons hr.1 ih
  exact hkeys ▸ List.mem_map_of_mem hrecord

/-- A turn after a write: the stored snapshot is the live state. -/
theorem steady_of_written [Host] (h : s.Steady shelf) (ht : Took s s' i r t) (hopen : t.coordinator.closed = false)
    (hfinished : ∃ result, t.next = .finished result)
    (hknown : ∀ b ∈ t.coordinator.tabs, ∃ turns, s'.echo.history b.2 = .ok turns) (records : List SessionRecord)
    (hstore : s'.store shelf.key = (Snapshot.mk shelf.version records (s'.live shelf).uiState).toJson)
    (hmirrors : Mirrors s'.echo t.coordinator.tabs records) : s'.Steady shelf where
  asking := ht.asking h
  serving := ht.serving h
  unclosed := by rw [ht.coordinator, hopen]
  known := by rwa [ht.coordinator]
  fits := by
    obtain ⟨result, hn⟩ := hfinished
    exact ht.fits h (hn ▸ calls_finished result)
  restorable := by
    rw [ht.coordinator]
    exact .inr ⟨records, _, hstore, bound_of_mirrors hmirrors⟩
  uiState := .inr (by rw [hstore, Shelf.storedUiState_toJson])
  settled := by
    rw [ht.coordinator]
    exact .inr (.inl ⟨records, _, hstore, hmirrors⟩)

/-! ## One move -/

theorem waits_advance (c : Coordinator) (purpose : Purpose) (notices : List Notice) (shelf : Shelf) (p : Save.Progress)
    (rest : TabMap) :
    ∃ call pt, (afterSave c purpose ⟨notices, Save.advance shelf p rest⟩).next =
      .waiting call (.saving purpose pt) := by
  cases rest <;> exact ⟨_, _, rfl⟩

/-- A state of the surface is saved at once. -/
theorem begin_keeping [Host] {c : Coordinator} {state : Json} (hr : r.keptState? = some state)
    (hopen : c.closed = false) :
    ∃ call pt, (c.begin r).next = .waiting call (.saving .keeping pt) := by
  cases r with
  | inbound m =>
    cases hm : Inbound.ofJson m with
    | error refusal => simp [Request.keptState?, hm] at hr
    | ok event =>
      cases event with
      | saveState state =>
        simp only [begin, beginInbound, hopen, hm, beginEvent, persist, save, Save.start, Save.collect]
        exact waits_advance _ _ _ _ _ _
      | _ => simp [Request.keptState?, hm] at hr
  | _ => cases hr

/-- While all handlers wait for deliveries and pauses, the stored state of the surface is the one handed over last. -/
theorem Steady.storedUiState (h : s.Steady shelf) (hidle : ∀ j handler purpose pt call,
    s.scene.handlers[j]? = some handler → handler.status = .waiting call (.saving purpose pt) → purpose = .keeping →
    s.busy j = false) : shelf.storedUiState (s.store shelf.key) = (s.live shelf).uiState := by
  refine h.uiState.resolve_left ?_
  rintro ⟨handler, hmem, call, pt, hstatus⟩
  obtain ⟨j, hj⟩ := List.mem_iff_getElem?.1 hmem
  have hask := h.asking.asks handler hmem call _ hstatus
  rw [h.unclosed] at hask
  exact (fits_of_not_busy hj hstatus (hidle j handler _ pt call hj hstatus rfl) hask (s.live shelf)).2 _ _ rfl

/-- A new handler takes its first turn. -/
theorem took_begin [Host] (hidle : ∀ j, s.busy j = false) (r : Request) : Took s
    { s with scene := s.scene.step (.begin r) } s.scene.handlers.length r (s.scene.coordinator.begin r) where
  shift := ⟨_, Scene.step_shift s.scene (.begin r)⟩
  coordinator := rfl
  self := ⟨[], by simp [Schedule.step]⟩
  other := by
    intro j hj
    rcases Nat.lt_or_gt_of_ne hj with hlt | hgt
    · exact List.getElem?_append_left hlt
    · have hnone : s.scene.handlers[j]? = none := List.getElem?_eq_none (Nat.le_of_lt hgt)
      rw [hnone]
      exact List.getElem?_eq_none (by simpa [Schedule.step] using Nat.succ_le_of_lt hgt)
  idle := fun j _ => hidle j

/-- A request begins while all handlers wait for deliveries and pauses. -/
theorem steady_begin [Host] (h : s.Steady shelf) (hidle : ∀ j, s.busy j = false) (hr : r ≠ .shutdown) :
    Steady shelf { s with scene := s.scene.step (.begin r) } := by
  have hstored := h.storedUiState fun j _ _ _ _ _ _ _ => hidle j
  have hlive : (live { s with scene := s.scene.step (.begin r) } shelf).uiState =
      r.keptState?.getD (s.live shelf).uiState := by
    simp only [live, Schedule.step, List.map_append, List.map_cons, List.map_nil, lastState_append]
  have htabs : (s.scene.coordinator.begin r).coordinator.tabs = s.scene.coordinator.tabs := tabs_begin _ _
  have hkept : r.keptState? = some (live { s with scene := s.scene.step (.begin r) } shelf).uiState ∨
      r.keptState? = none ∧ shelf.storedUiState (s.store shelf.key) =
        (live { s with scene := s.scene.step (.begin r) } shelf).uiState := by
    rw [hlive]
    cases hkeep : r.keptState? with
    | none => exact .inr ⟨rfl, hstored⟩
    | some state => exact .inl rfl
  refine steady_of_sound h (took_begin hidle r) ?_ rfl ?_ ?_ ?_ (sound_begin hr h.unclosed htabs.symm hkept) ?_
  · rw [(proper_begin s.scene.coordinator r).closed, h.unclosed]
    cases r with
    | shutdown => exact absurd rfl hr
    | _ => rfl
  · rw [htabs]
    exact h.known
  · rw [htabs]
    exact fun tab hb => hb
  · rcases hkept with hkeep | ⟨-, hstored'⟩
    · exact .inl (begin_keeping hkeep h.unclosed)
    · exact .inr hstored'
  · refine fun _ => ⟨fun handler call pt hi => ?_, htabs, rfl⟩
    rw [List.getElem?_eq_none (Nat.le_refl _)] at hi
    cases hi

section

variable {d : List (Call × Except Fault Answer)} {call : Call} {pt : Point} {a : Except Fault Answer} {s₁ : Play}

/-- The handler that is answered takes a turn. -/
theorem took_answer [Host] (hi : s.scene.handlers[i]? = some ⟨r, d, .waiting call pt⟩)
    (hidle : ∀ j, j ≠ i → s.busy j = false) (a : Except Fault Answer) (s₁ : Play) :
    Took s { s₁ with scene := s.scene.step (.answer i a) } i r (s.scene.coordinator.resume a pt) := by
  have hlt : i < s.scene.handlers.length := (List.getElem?_eq_some_iff.1 hi).1
  have hshift := Scene.step_shift s.scene (.answer i a)
  rw [Scene.step_answer hi] at hshift ⊢
  exact {
    shift := ⟨_, hshift⟩
    coordinator := rfl
    self := ⟨d ++ [(call, a)], List.getElem?_set_self hlt⟩
    other := fun j hj => List.getElem?_set_ne (Ne.symm hj)
    idle := hidle }

variable (shelf) in
theorem live_answer [Host] (hi : s.scene.handlers[i]? = some ⟨r, d, .waiting call pt⟩) (a : Except Fault Answer)
    (s₁ : Play) :
    live { s₁ with scene := s.scene.step (.answer i a) } shelf =
      ⟨s₁.store shelf.key, s₁.echo, (s.live shelf).uiState, (s.scene.coordinator.resume a pt).coordinator.tabs⟩ := by
  have hrequests : (s.scene.handlers.set i ⟨r, d ++ [(call, a)], (s.scene.coordinator.resume a pt).next⟩).map
      (·.request) = s.scene.handlers.map (·.request) := by
    obtain ⟨hlt, hhandler⟩ := List.getElem?_eq_some_iff.1 hi
    have hlt' : i < (s.scene.handlers.map (·.request)).length := by simpa using hlt
    have hr : (s.scene.handlers.map (·.request))[i] = r := by simp [hhandler]
    rw [List.map_set]
    exact hr ▸ List.set_getElem_self _
  rw [Scene.step_answer hi]
  simp only [live, hrequests]

/-- Only a new tab changes the tabs, as long as there is no shutdown and every stored tab is bound. -/
theorem tabs_resume {c : Coordinator} (hask : pt.Asks shelf false call) {l : Live} (hfits : pt.Fits shelf l)
    (hpt : ∀ tab, pt ≠ .creating tab) (a : Except Fault Answer) : (c.resume a pt).coordinator.tabs = c.tabs := by
  have hrebinding := resume_rebinding c a pt
  generalize (c.resume a pt).coordinator.tabs = tabs at hrebinding
  cases hrebinding with
  | opened tab b => exact absurd rfl (hpt tab)
  | revived p tab session rest b => exact nomatch (show Restore.Point.resuming p tab session rest = .reading from hfits)
  | forgotten pt => exact absurd (hask.2 rfl) Bool.false_ne_true
  | kept => rfl

/-- An answer that writes nothing. -/
theorem steady_answered [Host] (h : s.Steady shelf) (hi : s.scene.handlers[i]? = some ⟨r, d, .waiting call pt⟩)
    (hidle : ∀ j, j ≠ i → s.busy j = false) (hstore : s₁.store = s.store)
    (hknown : ∀ session turns, s.echo.history session = .ok turns → ∃ turns', s₁.echo.history session = .ok turns')
    (hpt : ∀ tab, pt ≠ .creating tab)
    (hui : (∃ call' pt', (s.scene.coordinator.resume a pt).next = .waiting call' (.saving .keeping pt')) ∨
      shelf.storedUiState (s.store shelf.key) = (s.live shelf).uiState)
    (hsound : (s.scene.coordinator.resume a pt).Sound shelf
      ⟨s.store shelf.key, s₁.echo, (s.live shelf).uiState, s.scene.coordinator.tabs⟩ r owes)
    (hsame : ¬ owes → ¬ pt.Owes ∧ s₁.echo = s.echo) :
    Steady shelf { s₁ with scene := s.scene.step (.answer i a) } := by
  have hmem := List.mem_of_getElem? hi
  have hask := h.asking.asks _ hmem call pt rfl
  rw [h.unclosed] at hask
  have htabs := tabs_resume (c := s.scene.coordinator) hask (h.fits _ hmem call pt rfl) hpt a
  have hlive : live { s₁ with scene := s.scene.step (.answer i a) } shelf =
      ⟨s.store shelf.key, s₁.echo, (s.live shelf).uiState, s.scene.coordinator.tabs⟩ :=
    (live_answer shelf hi a s₁).trans (by rw [htabs, hstore])
  have hask' : pt.Asks s.scene.coordinator.shelf s.scene.coordinator.closed call := by
    rwa [h.asking.kept, h.unclosed]
  have hsound' : (s.scene.coordinator.resume a pt).Sound shelf
      (live { s₁ with scene := s.scene.step (.answer i a) } shelf) r owes := hlive ▸ hsound
  refine steady_of_sound h (took_answer hi hidle a s₁) ?_ hstore ?_ ?_ ?_ hsound' ?_
  · rw [(proper_resume s.scene.coordinator a hask').closed, h.unclosed]
  · rw [htabs]
    intro b hb
    obtain ⟨turns, hturns⟩ := h.known b hb
    exact hknown b.2 turns hturns
  · rw [htabs]
    exact fun tab hb => hb
  · refine hui.imp_right fun hstored => ?_
    rw [hlive]
    exact (congrArg (fun store => shelf.storedUiState (store shelf.key)) hstore).trans hstored
  · intro howes
    obtain ⟨hfree, hecho⟩ := hsame howes
    refine ⟨fun handler call' pt' hi' hstatus => ?_, htabs, hecho⟩
    rw [hi] at hi'
    cases hi'
    cases hstatus
    exact hfree

/-- What a response comes to. Only its end changes the agent, and no session is lost. -/
theorem reply_relaying {ids : Nat → String} {p : Prompt} {pt : Relay.Point}
    (hreply : s.reply ids i (relayCall p pt) = (some a, s₁)) :
    s₁.store = s.store ∧ (¬ (Point.relaying p pt).OwesAfter a → s₁.echo = s.echo) ∧
      (∀ session turns, s.echo.history session = .ok turns → ∃ turns', s₁.echo.history session = .ok turns') ∧
      ((∀ n, pt ≠ .pulling n) → ∃ b, a = .ok b) := by
  cases pt with
  | opening =>
    cases hreply
    exact ⟨rfl, fun _ => rfl, fun session turns hturns => ⟨turns, hturns⟩, fun _ => ⟨_, rfl⟩⟩
  | pulling n =>
    have hpull := Echo.pull_sessions s.echo (s.streams i)
    simp only [relayCall, reply] at hreply
    split at hreply
    · cases hreply
    · obtain ⟨rfl, rfl⟩ : pulled (s.echo.pull (s.streams i)).2.2 = a ∧ _ = s₁ := by simpa using hreply
      refine ⟨rfl, fun howes => ?_, fun session turns hturns => Echo.known_pull hturns _, fun hn => absurd rfl (hn n)⟩
      refine hpull.resolve_right fun ⟨hover, _⟩ => howes ?_
      rw [hover]
      exact (rfl : pulled .exhausted = .ok .exhausted)
  | closing ending =>
    cases hreply
    exact ⟨rfl, fun _ => rfl, fun session turns hturns => ⟨turns, hturns⟩, fun _ => ⟨_, rfl⟩⟩

/-! ### One answer -/

variable (h : s.Steady shelf) (hidle : ∀ j, j ≠ i → s.busy j = false)
include h hidle

/-- The stored state of the surface is the one handed over last, unless it is this handler that keeps one. -/
theorem storedUiState_of_answered (hi : s.scene.handlers[i]? = some ⟨r, d, .waiting call pt⟩)
    (hpt : ∀ sp, pt ≠ .saving .keeping sp) : shelf.storedUiState (s.store shelf.key) = (s.live shelf).uiState := by
  refine h.storedUiState fun j handler purpose sp call' hj hstatus hkeep => ?_
  by_cases hij : j = i
  · subst hij
    rw [hi] at hj
    cases hj
    cases hstatus
    exact absurd (hkeep ▸ rfl) (hpt sp)
  · exact hidle j hij

variable [Host]

/-- An answer after which the agent and the store are as before. -/
theorem steady_unchanged (hi : s.scene.handlers[i]? = some ⟨r, d, .waiting call pt⟩) (hpt : ∀ tab, pt ≠ .creating tab)
    (hui : (∃ call' pt', (s.scene.coordinator.resume a pt).next = .waiting call' (.saving .keeping pt')) ∨
      shelf.storedUiState (s.store shelf.key) = (s.live shelf).uiState)
    (hsound : (s.scene.coordinator.resume a pt).Sound shelf (s.live shelf) r owes) (hfree : ¬ owes → ¬ pt.Owes) :
    Steady shelf { s with scene := s.scene.step (.answer i a) } := by
  have hknown : ∀ session turns, s.echo.history session = .ok turns → ∃ turns', s.echo.history session = .ok turns' :=
    fun session turns hturns => ⟨turns, hturns⟩
  exact steady_answered h hi hidle rfl hknown hpt hui hsound fun howes => ⟨hfree howes, rfl⟩

/-- A new session has come. -/
theorem steady_creating {tab : String} (hi : s.scene.handlers[i]? = some ⟨r, d, .waiting call (.creating tab)⟩)
    (session : String) (issued : Nat) : Steady shelf
      { s with
        echo := (s.echo.create session).1, issued := issued,
        scene := s.scene.step (.answer i (.ok (.session session))) } := by
  have hask : (Point.creating tab).Asks s.scene.coordinator.shelf s.scene.coordinator.closed call :=
    h.asking.asks _ (List.mem_of_getElem? hi) call _ rfl
  have hstored := storedUiState_of_answered h hidle hi (by simp)
  have hopen := (proper_resume s.scene.coordinator (.ok (.session session)) hask).closed.trans h.unclosed
  have htabs : (s.scene.coordinator.resume (.ok (.session session)) (.creating tab)).coordinator.tabs =
      s.scene.coordinator.tabs.bind tab session :=
    tabs_persist (c := { s.scene.coordinator with tabs := s.scene.coordinator.tabs.bind tab session }) (by simp) none
  have hlive := live_answer shelf hi (.ok (.session session))
    { s with echo := (s.echo.create session).1, issued := issued }
  -- No snapshot tells the new binding yet, so the handler owes a save from here on.
  have hsound : (s.scene.coordinator.resume (.ok (.session session)) (.creating tab)).Sound shelf
      ⟨s.store shelf.key, (s.echo.create session).1, (s.live shelf).uiState, s.scene.coordinator.tabs.bind tab session⟩
      r True :=
    (sound_persist (c := { s.scene.coordinator with tabs := s.scene.coordinator.tabs.bind tab session })
      (.opening tab session) h.unclosed rfl (.inr ⟨rfl, hstored⟩)).report _
  rw [htabs] at hlive
  refine steady_of_sound h (took_answer hi hidle _ { s with echo := (s.echo.create session).1, issued := issued })
    hopen rfl ?_ ?_ ?_ (hlive ▸ hsound) fun hnot => absurd trivial hnot
  · rw [htabs]
    intro b hb
    rw [Echo.history_create]
    split
    · exact ⟨[], rfl⟩
    · next hne =>
      rcases Assoc.mem_put _ _ hb with rfl | hold
      · exact absurd rfl hne
      · exact h.known b hold
  · rw [htabs]
    exact fun tab' hb => bound_bind.2 (.inr hb)
  · rw [hlive]
    exact .inr hstored

/-- A response goes on. -/
theorem steady_relaying {ids : Nat → String} {p : Prompt} {pt : Relay.Point}
    (hi : s.scene.handlers[i]? = some ⟨r, d, .waiting call (.relaying p pt)⟩)
    (hreply : s.reply ids i call = (some a, s₁)) : Steady shelf { s₁ with scene := s.scene.step (.answer i a) } := by
  have hmem := List.mem_of_getElem? hi
  obtain rfl : call = relayCall p pt := h.asking.asks _ hmem call _ rfl
  obtain ⟨hstore, hecho, hknown, ha⟩ := reply_relaying hreply
  have hstored := storedUiState_of_answered h hidle hi (by simp)
  have hfits : (Point.relaying p pt).Fits shelf
      ⟨s.store shelf.key, s₁.echo, (s.live shelf).uiState, s.scene.coordinator.tabs⟩ :=
    fits_relaying (h.fits _ hmem _ _ rfl)
  refine steady_answered h hi hidle hstore hknown (by simp) (.inr hstored)
    (sound_afterStep h.unclosed rfl hstored p hfits ha) fun howes => ⟨fun hpt => howes ?_, hecho howes⟩
  cases pt with
  | closing ending => exact hpt
  | _ => exact hpt.elim

/-- A message was taken. -/
theorem steady_delivered {event : Outbound} (hi : s.scene.handlers[i]? = some ⟨r, d, .waiting (.deliver event) pt⟩) :
    Steady shelf { s with scene := s.scene.step (.answer i (.ok .done)) } := by
  have hmem := List.mem_of_getElem? hi
  have hask := h.asking.asks _ hmem _ _ rfl
  have hserve := h.serving _ hmem _ _ rfl
  have hstored (hpt : ∀ sp, pt ≠ .saving .keeping sp) := storedUiState_of_answered h hidle hi hpt
  cases pt with
  | passing p handover pt =>
    have howes (h : (Point.passing p handover pt).Owes) : ∃ n, handover = .completion n := by
      cases handover with
      | chunk n => exact h.elim
      | completion n => exact ⟨n, rfl⟩
    exact steady_unchanged h hidle hi (by simp) (.inr (hstored (by simp)))
      (sound_afterPass h.unclosed rfl (hstored (by simp)) p handover (Outbox.calm_resume _ pt) howes) id
  | reporting p cause n pt =>
    exact steady_unchanged h hidle hi (by simp) (.inr (hstored (by simp)))
      (sound_afterReport h.unclosed rfl (hstored (by simp)) p cause n (Outbox.calm_resume _ pt)) id
  | announcing restored =>
    exact steady_unchanged h hidle hi (by simp) (.inr (hstored (by simp)))
      (sound_finish id (not_savedBy_of_asks hserve (by simp) (by simp) (by simp))) id
  | replaying pt =>
    obtain rfl : r = .visible := hserve
    exact steady_unchanged h hidle hi (by simp) (.inr (hstored (by simp)))
      (sound_afterReplay (not_savedBy_visible _) (Outbox.calm_resume _ pt)) id
  | creating tab => cases hask
  | relaying p pt => cases pt <;> cases hask
  | saving purpose pt => cases pt <;> cases hask.1
  | restoring pt =>
    cases pt with
    | reading => cases hask
    | discarding found => cases hask
    | resuming progress tab session rest => obtain ⟨state, hcall⟩ := hask; cases hcall

/-- The stored value was looked up to be restored. -/
theorem steady_restoring {pt : Restore.Point} {ids : Nat → String}
    (hi : s.scene.handlers[i]? = some ⟨r, d, .waiting call (.restoring pt)⟩)
    (hreply : s.reply ids i call = (some a, s₁)) : Steady shelf { s₁ with scene := s.scene.step (.answer i a) } := by
  have hmem := List.mem_of_getElem? hi
  obtain rfl : pt = .reading := h.fits _ hmem _ _ rfl
  obtain rfl : call = .getValue shelf.key := h.asking.asks _ hmem _ _ rfl
  cases hreply
  have hshelf : s.scene.coordinator.shelf = shelf := h.asking.kept
  have hstored := storedUiState_of_answered h hidle hi (by simp)
  have hrestorable : Restorable s.scene.coordinator.shelf s.scene.coordinator.tabs (s.store shelf.key) :=
    hshelf ▸ h.restorable
  have hsound : (s.scene.coordinator.resume (.ok (.value (s.store shelf.key))) (.restoring .reading)).Sound shelf
      (s.live shelf) r False := sound_restore hrestorable
  exact steady_unchanged h hidle hi (by simp) (.inr hstored) hsound id

/-- A save goes on to read a session. -/
theorem steady_recalling {ids : Nat → String} {purpose : Purpose}
    (hi : s.scene.handlers[i]? = some ⟨r, d, .waiting call (.saving purpose .recalling)⟩)
    (hreply : s.reply ids i call = (some a, s₁)) : Steady shelf { s₁ with scene := s.scene.step (.answer i a) } := by
  have hmem := List.mem_of_getElem? hi
  have hstored : shelf.storedUiState (s.store shelf.key) = (s.live shelf).uiState := h.fits _ hmem _ _ rfl
  obtain rfl : call = .getValue shelf.key := (h.asking.asks _ hmem call _ rfl).1
  cases hreply
  have hshelf : s.scene.coordinator.shelf = shelf := h.asking.kept
  have hsound : (s.scene.coordinator.resume (.ok (.value (s.store shelf.key))) (.saving purpose .recalling)).Sound shelf
      (s.live shelf) r True := sound_advance (by rw [hshelf]; exact hstored) (List.nil_append _).symm .nil
  exact steady_unchanged h hidle hi (by simp) (.inr hstored) hsound fun hnot => absurd trivial hnot

/-- The state of a session was read. -/
theorem steady_reading {ids : Nat → String} {purpose : Purpose} {p : Save.Progress} {tab session : String}
    {rest : TabMap}
    (hi : s.scene.handlers[i]? = some ⟨r, d, .waiting call (.saving purpose (.reading p tab session rest))⟩)
    (hreply : s.reply ids i call = (some a, s₁)) : Steady shelf { s₁ with scene := s.scene.step (.answer i a) } := by
  have hmem := List.mem_of_getElem? hi
  obtain ⟨hui, read, htabs, hread⟩ : SaveFits shelf (s.live shelf) (.reading p tab session rest) :=
    h.fits _ hmem _ _ rfl
  obtain rfl : call = .readState session := (h.asking.asks _ hmem call _ rfl).1
  obtain ⟨turns, hturns⟩ := h.known (tab, session) (by rw [show s.scene.coordinator.tabs = _ from htabs]; simp)
  have hstate : s.echo.state session = .ok (.obj [("history", .arr turns)]) := by rw [Echo.state, hturns]; rfl
  have hvalue : (some ((s.echo.state session).map Answer.value), s) = (some a, s₁) := hreply
  rw [hstate] at hvalue
  cases hvalue
  have htabs' : (s.live shelf).tabs = (read ++ [(tab, session)]) ++ rest := by rw [htabs, List.append_assoc]; rfl
  have hread' : Mirrors s.echo (read ++ [(tab, session)])
      (p.add tab session (.obj [("history", .arr turns)])).records.reverse := by
    rw [Save.Progress.add, List.reverse_cons]
    exact List.rel_append hread (.cons ⟨rfl, rfl, hstate⟩ .nil)
  have hsound : (s.scene.coordinator.resume (.ok (.value (.obj [("history", .arr turns)])))
      (.saving purpose (.reading p tab session rest))).Sound shelf (s.live shelf) r True :=
    sound_advance hui htabs' hread'
  refine steady_unchanged h hidle hi (by simp) ?_ hsound fun hnot => absurd trivial hnot
  -- Only a save that keeps a new state of the surface may find another one stored.
  by_cases hkeep : purpose = .keeping
  · subst hkeep
    exact .inl (waits_advance _ _ _ _ _ _)
  · exact .inr (storedUiState_of_answered h hidle hi fun sp hsp => hkeep (Point.saving.inj hsp).1)

/-- A snapshot was written. -/
theorem steady_writing {ids : Nat → String} {purpose : Purpose} {p : Save.Progress}
    (hi : s.scene.handlers[i]? = some ⟨r, d, .waiting call (.saving purpose (.writing p))⟩)
    (hreply : s.reply ids i call = (some a, s₁)) : Steady shelf { s₁ with scene := s.scene.step (.answer i a) } := by
  have hmem := List.mem_of_getElem? hi
  have hask := h.asking.asks _ hmem call _ rfl
  obtain ⟨hui, hread⟩ : SaveFits shelf (s.live shelf) (.writing p) := h.fits _ hmem _ _ rfl
  obtain rfl : call = .updateValue shelf.key (p.snapshot shelf).toJson := hask.1
  -- Only the last save forgets the tabs, and it needs a shutdown.
  have hpurpose : purpose ≠ .leaving := by
    rintro rfl
    rw [h.unclosed] at hask
    exact Bool.false_ne_true (hask.2 rfl)
  have hask' : (Point.saving purpose (.writing p)).Asks s.scene.coordinator.shelf s.scene.coordinator.closed
      (.updateValue shelf.key (p.snapshot shelf).toJson) := by rwa [h.asking.kept]
  cases hreply
  have htabs : (s.scene.coordinator.resume (.ok .done) (.saving purpose (.writing p))).coordinator.tabs =
      s.scene.coordinator.tabs := tabs_afterSave hpurpose _
  have hlive := live_answer shelf hi (.ok .done)
    { s with store := Function.update s.store shelf.key (p.snapshot shelf).toJson }
  refine steady_of_written h (took_answer hi hidle (.ok .done) _)
    ((proper_resume _ (.ok .done) hask').closed.trans h.unclosed) ?_ ?_ p.records.reverse ?_ ?_
  · cases purpose <;> exact ⟨_, rfl⟩
  · rw [htabs]
    exact h.known
  · rw [hlive, ← hui]
    exact Function.update_self shelf.key _ s.store
  · rw [htabs]
    exact hread

/-- A handler goes on with the answer to its call. -/
theorem steady_answer {ids : Nat → String} (hi : s.scene.handlers[i]? = some ⟨r, d, .waiting call pt⟩)
    (hreply : s.reply ids i call = (some a, s₁)) : Steady shelf { s₁ with scene := s.scene.step (.answer i a) } := by
  have hask := h.asking.asks _ (List.mem_of_getElem? hi) call pt rfl
  cases pt with
  | creating tab =>
    obtain rfl : call = .createSession := hask
    cases hreply
    exact steady_creating h hidle hi _ _
  | relaying p pt => exact steady_relaying h hidle hi hreply
  | saving purpose pt =>
    cases pt with
    | recalling => exact steady_recalling h hidle hi hreply
    | reading p tab session rest => exact steady_reading h hidle hi hreply
    | writing p => exact steady_writing h hidle hi hreply
  | restoring pt => exact steady_restoring h hidle hi hreply
  | passing | reporting | announcing | replaying =>
    obtain rfl := hask
    cases hreply
    exact steady_delivered h hidle hi

end

/-! ### Schedules -/

/-- What one move keeps. -/
theorem steady_change [Host] {ids : Nat → String} {m : Move} (hm : m ≠ .begin .shutdown) (hs : Change ids s m s')
    (h : s.Steady shelf) : s'.Steady shelf := by
  cases hs with
  | idle => exact h
  | begin r hidle =>
    refine steady_begin h hidle ?_
    rintro rfl
    exact hm rfl
  | pause i stream => exact { h with }
  | answer i r d call pt a s₁ hi hidle hreply => exact steady_answer h hidle hi hreply

/-- What every schedule without a shutdown keeps. -/
theorem steady_run [Host] (ids : Nat → String) (shelf : Shelf) (visible : Bool) (delay : Delay) {moves : List Move}
    (hopen : .begin .shutdown ∉ moves) : Steady shelf ((start shelf visible delay).run ids moves) := by
  refine moves_induction ids (fun hm hs h => ?_) (steady_start shelf visible delay)
  refine steady_change ?_ hs h
  rintro rfl
  exact hopen hm

end

/-- When all handlers are finished, and one of them has saved, then the stored snapshot has the current version, tells
every tab in its order with its session and the state that the agent has for it, and the state of the surface that was
handed over last. -/
theorem snapshot_at_rest [Host] (ids : Nat → String) (shelf : Shelf) (visible : Bool) (delay : Delay)
    (moves : List Move) (hopen : .begin .shutdown ∉ moves)
    (hrest : ∀ h ∈ ((start shelf visible delay).run ids moves).scene.handlers, ∃ result, h.status = .finished result)
    (hsaved : ∃ h ∈ ((start shelf visible delay).run ids moves).scene.handlers, ∃ result,
      h.status = .finished result ∧ h.request.SavedBy result) :
    ∃ records, ((start shelf visible delay).run ids moves).store shelf.key =
        (Snapshot.mk shelf.version records
          (lastState (((start shelf visible delay).run ids moves).scene.handlers.map (·.request)))).toJson ∧
      Mirrors ((start shelf visible delay).run ids moves).echo
        ((start shelf visible delay).run ids moves).scene.coordinator.tabs records := by
  have h := steady_run ids shelf visible delay hopen
  generalize (start shelf visible delay).run ids moves = s at *
  have hnone {handler : Handler} (hmem : handler ∈ s.scene.handlers) {call : Call} {pt : Point} :
      handler.status ≠ .waiting call pt := by
    obtain ⟨result, hresult⟩ := hrest handler hmem
    simp [hresult]
  have hui : shelf.storedUiState (s.store shelf.key) = lastState (s.scene.handlers.map (·.request)) :=
    h.uiState.resolve_left fun ⟨handler, hmem, call, pt, hstatus⟩ => hnone hmem hstatus
  rcases h.settled with ⟨handler, hmem, call, pt, hstatus, -⟩ | ⟨records, ui, hstored, hmirrors⟩ | ⟨-, hnever⟩
  · exact absurd hstatus (hnone hmem)
  · rw [hstored, Shelf.storedUiState_toJson] at hui
    exact ⟨records, by rw [hstored, hui], hmirrors⟩
  · obtain ⟨handler, hmem, result, hresult, hsaves⟩ := hsaved
    exact absurd hsaves (hnever handler hmem result hresult)

/-- A tab is opened and prompted. The surface hands over a state and is hidden while it takes the first chunk, so the
others are kept back. -/
def hiddenSchedule : List Move :=
  .begin (.inbound (newTabMessage "t")) :: List.replicate 4 (.goOn 0) ++
  .begin (.inbound (promptMessage "t" "m" "hi")) :: List.replicate 2 (.goOn 1) ++
  .begin (.inbound (saveStateMessage (.bool true))) :: List.replicate 2 (.goOn 2) ++
  .begin .hidden :: List.replicate 3 (.goOn 3) ++ List.replicate 10 (.goOn 1)

section

attribute [local instance] Host.sample

theorem snapshot_at_rest_hidden : ∃ records,
    ((start ⟨"chat", 1⟩ true .none).run toString hiddenSchedule).store "chat" =
        (Snapshot.mk 1 records (.bool true)).toJson ∧
      Mirrors ((start ⟨"chat", 1⟩ true .none).run toString hiddenSchedule).echo [("t", "0")] records := by
  have hhandlers : ((start ⟨"chat", 1⟩ true .none).run toString hiddenSchedule).scene.handlers =
      [⟨_, _, .finished _⟩, ⟨_, _, .finished _⟩, ⟨_, _, .finished _⟩, ⟨_, _, .finished _⟩] := rfl
  have hopen : (Request.inbound (newTabMessage "t")).Asks (.newTab "t") := ⟨_, rfl, rfl⟩
  refine snapshot_at_rest toString ⟨"chat", 1⟩ true .none hiddenSchedule (by simp [hiddenSchedule]) ?_ ?_
  · rw [hhandlers]
    simp
  · rw [hhandlers]
    exact ⟨_, List.mem_cons_self, _, rfl, .inl (.inl ⟨"t", hopen⟩)⟩

end

end Play

end Coordinator

end ChatRelay
