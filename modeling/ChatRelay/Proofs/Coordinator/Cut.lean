import ChatRelay.Proofs.Coordinator.Duty
import ChatRelay.Proofs.Snapshot.RoundTrip

/-!
# Snapshots of one moment

A save reads the sessions one after the other, and between two readings anything may happen to the tabs. What it writes
is a cut all the same: the bindings of one moment of the schedule, each with what came back when its session was read.

- `Inquiry`: a binding with what came back for its session;
- `Cut`: the moment from which a save reads, and all that it has read since;
- `Scene.CutOf`: a cut that the handler of a request made in a schedule;
- `Scene.Traced`: the save of a handler follows a cut (`traced_begin`, `traced_answer`, `traced_run`);
- `Scene.snapshot_of_one_moment`: every snapshot that is written is a cut, and so is the result that is told.
-/

namespace ChatRelay.Coordinator

/-! ## Cuts -/

/-- A binding, and what came back when its session was read. -/
abbrev Inquiry := (String × String) × Except Fault Answer

/-- The call for the state of the session, with its answer. -/
def Inquiry.exchange (x : Inquiry) : Call × Except Fault Answer := (.readState x.1.2, x.2)

/-- The state that came back, or the failure. -/
def Inquiry.report (x : Inquiry) : (String × String) × Except Fault Json := (x.1, x.2.map Answer.toValue)

/-- What an outcome tells of a save. -/
def Outcome.saveResult? : Outcome → Option SaveResult
  | .tabOpened _ _ result => some result
  | .relayCompleted _ _ _ result => some result
  | .stateSaved result => some result
  | .saved result => some result
  | _ => none

/-- The moment from which a save reads, by the moves before it, with the handler as it was then, the state of the
surface, and what has been read since. -/
structure Cut where
  past : List Move
  handler : Handler
  uiState : Json
  inquiries : List Inquiry

namespace Cut

/-- How far a save has come that has read what the cut has. -/
def progress (cut : Cut) : Save.Progress := .after ⟨cut.uiState, [], []⟩ (cut.inquiries.map Inquiry.report)

/-- The records of the sessions that could be read. -/
def records (cut : Cut) : List SessionRecord := (cut.inquiries.map Inquiry.report).filterMap record?

/-- The sessions that could not be read. -/
def failures (cut : Cut) : List StateReadFailure := (cut.inquiries.map Inquiry.report).filterMap readFailure?

/-- The snapshot of a cut. -/
def snapshot (cut : Cut) (shelf : Shelf) : Snapshot := ⟨shelf.version, cut.records, cut.uiState⟩

/-- What there is to tell of the save of a cut. -/
def result (cut : Cut) : SaveResult := ⟨cut.records.map (·.tab), cut.failures⟩

@[simp] theorem snapshot_progress (cut : Cut) (shelf : Shelf) : cut.progress.snapshot shelf = cut.snapshot shelf := by
  simp [progress, Save.Progress.snapshot, Save.Progress.after, snapshot, records]

@[simp] theorem result_progress (cut : Cut) : cut.progress.result = cut.result := by
  simp [progress, Save.Progress.result, Save.Progress.after, result, records, failures]

/-- The cut with one more inquiry. -/
def ask (cut : Cut) (x : Inquiry) : Cut := { cut with inquiries := cut.inquiries ++ [x] }

theorem progress_ask_ok (cut : Cut) (b : String × String) (a : Answer) :
    (cut.ask (b, .ok a)).progress = cut.progress.add b.1 b.2 a.toValue := by
  simp [progress, ask, Save.Progress.after, Save.Progress.add, Inquiry.report, Except.map, record?, readFailure?]

theorem progress_ask_error (cut : Cut) (b : String × String) (f : Fault) :
    (cut.ask (b, .error f)).progress = cut.progress.fail b.1 b.2 f := by
  simp [progress, ask, Save.Progress.after, Save.Progress.fail, Inquiry.report, Except.map, record?, readFailure?]

theorem mem_records {cut : Cut} {r : SessionRecord} (h : r ∈ cut.records) :
    ∃ a, ((r.tab, r.session), .ok a) ∈ cut.inquiries ∧ r.state = a.toValue := by
  obtain ⟨report, hreport, hrecord⟩ := List.mem_filterMap.1 h
  obtain ⟨⟨b, f | a⟩, hmem, rfl⟩ := List.mem_map.1 hreport
  · cases hrecord
  · obtain rfl := Option.some.inj hrecord
    exact ⟨a, hmem, rfl⟩

end Cut

/-! ## The result of a cut -/

/-- The tabs of a result and of its failures are all tabs, each once, and both stand in the order of the tabs. -/
structure Divides (told : SaveResult) (tabs : TabMap) : Prop where
  saved : told.savedTabs.Sublist (Assoc.keys tabs)
  failed : (told.failures.map (·.tab)).Sublist (Assoc.keys tabs)
  once : (told.savedTabs ++ told.failures.map (·.tab)).Perm (Assoc.keys tabs)

theorem Cut.divides {cut : Cut} {tabs : TabMap} (h : cut.inquiries.map (·.1) = tabs) : Divides cut.result tabs := by
  subst h
  obtain ⟨past, handler, ui, inquiries⟩ := cut
  simp only [result, records, failures]
  induction inquiries with
  | nil => exact ⟨.slnil, .slnil, .nil⟩
  | cons x rest ih =>
    obtain ⟨b, f | a⟩ := x
    · simp only [List.map_cons, Inquiry.report, Except.map, List.filterMap_cons, record?, readFailure?]
      exact ⟨ih.saved.cons b.1, ih.failed.cons_cons b.1, List.perm_middle.trans (ih.once.cons b.1)⟩
    · simp only [List.map_cons, Inquiry.report, Except.map, List.filterMap_cons, record?, readFailure?]
      exact ⟨ih.saved.cons_cons b.1, ih.failed.cons b.1, ih.once.cons b.1⟩

/-! ## Saves that have read nothing -/

theorem keptState?_eq_some {r : Request} {state : Json} : r.keptState? = some state ↔ r.Asks (.saveState state) := by
  constructor
  · intro h
    cases r with
    | inbound m =>
      simp only [Request.keptState?] at h
      split at h
      · next hm =>
        obtain rfl := Option.some.inj h
        exact ⟨m, rfl, hm⟩
      · cases h
    | _ => cases h
  · rintro ⟨m, rfl, hm⟩
    simp [Request.keptState?, hm]

/-- Only a save of a state of the surface is made for a request that hands one over. -/
theorem keptState?_of_serves {purpose : Purpose} {r : Request} (h : purpose.Serves r) (hp : purpose ≠ .keeping) :
    r.keptState? = none := by
  by_contra hne
  obtain ⟨state, hstate⟩ := Option.ne_none_iff_exists'.1 hne
  have hr := keptState?_eq_some.1 hstate
  cases purpose with
  | keeping => exact hp rfl
  | opening tab session => cases hr.unique h
  | completing p n => cases hr.unique h
  | failing p cause n => cases hr.unique h
  | _ =>
    -- the requests of the other saves are no messages
    obtain rfl := h
    cases hstate

/-- A turn after which no save has read anything: one that waits is for the stored value. -/
def Turn.Recalls (t : Turn) : Prop :=
  Calls (fun pt _ => ∀ purpose sp, pt = .saving purpose sp → sp = .recalling ∧ purpose ≠ .keeping) t.next

section

variable {c : Coordinator}

theorem Turn.Recalls.report {t : Turn} (h : t.Recalls) (notices : List Notice) : (t.report notices).Recalls := h

theorem recalls_finish (outcome : Outcome) : (finish c outcome).Recalls := calls_finished _

theorem recalls_fail (f : Fault) : (fail c f).Recalls := calls_finished _

theorem recalls_await {call : Call} {pt : Point} (h : ∀ purpose sp, pt ≠ .saving purpose sp) :
    (await c call pt).Recalls :=
  calls_waiting fun purpose sp hpt => absurd hpt (h purpose sp)

theorem recalls_save {purpose : Purpose} (hp : purpose ≠ .keeping) : (save c purpose none).Recalls := by
  refine calls_waiting ?_
  intro purpose' sp hpt
  cases hpt
  exact ⟨rfl, hp⟩

theorem recalls_persist {purpose : Purpose} (hp : purpose ≠ .keeping) : (persist c purpose none).Recalls := by
  unfold persist
  split
  · cases purpose <;> exact calls_finished _
  · exact recalls_save hp

theorem recalls_afterReport (p : Prompt) (cause : Fault) (n : Nat) (t : Outbox.Turn Outbound) :
    (afterReport c p cause n t).Recalls := by
  unfold afterReport
  refine Turn.Recalls.report ?_ _
  rcases t.next with (f | _) | ⟨e, pt⟩
  · exact recalls_fail f
  · exact recalls_persist (by simp)
  · exact recalls_await (by simp)

theorem recalls_afterRelay (p : Prompt) (next : Next Call Relay.Point Nat) : (afterRelay c p next).Recalls := by
  unfold afterRelay
  split
  · exact (recalls_persist (by simp)).report _
  · exact (recalls_afterReport _ _ _ _).report _
  · exact recalls_fail _
  · exact recalls_await (by simp)

theorem recalls_afterPass (p : Prompt) (handover : Relay.Handover) (t : Outbox.Turn Outbound) :
    (afterPass c p handover t).Recalls := by
  unfold afterPass
  refine Turn.Recalls.report ?_ _
  rcases t.next with result | ⟨e, pt⟩
  · exact recalls_afterRelay _ _
  · exact recalls_await (by simp)

theorem recalls_afterStep (p : Prompt) (step : Relay.Step) : (afterStep c p step).Recalls := by
  cases step with
  | pass event handover => exact recalls_afterPass p handover _
  | next next => exact recalls_afterRelay p next

theorem recalls_afterRestore (t : Restore.Turn) : (afterRestore c t).Recalls := by
  unfold afterRestore
  refine Turn.Recalls.report ?_ _
  rcases t.next with (f | restored) | ⟨call, pt⟩
  · exact recalls_fail f
  · exact recalls_await (by simp)
  · exact recalls_await (by simp)

theorem recalls_afterReplay (t : Outbox.Turn Outbound) : (afterReplay c t).Recalls := by
  unfold afterReplay
  refine Turn.Recalls.report ?_ _
  rcases t.next with (f | _) | ⟨e, pt⟩
  · exact recalls_fail f
  · exact recalls_finish _
  · exact recalls_await (by simp)

/-- No save has read anything when a handler goes on that was not saving. -/
theorem recalls_resume (c : Coordinator) (a : Except Fault Answer) {pt : Point}
    (h : ∀ purpose sp, pt ≠ .saving purpose sp) : (c.resume a pt).Recalls := by
  cases pt with
  | creating tab =>
    cases a with
    | ok a => exact (recalls_persist (by simp)).report _
    | error f => exact recalls_fail f
  | relaying p pt => exact recalls_afterStep p _
  | passing p handover pt => exact recalls_afterPass p handover _
  | reporting p cause n pt => exact recalls_afterReport p cause n _
  | saving purpose sp => exact absurd rfl (h purpose sp)
  | restoring pt => exact recalls_afterRestore _
  | announcing restored => cases a <;> exact calls_finished _
  | replaying pt => exact recalls_afterReplay _

/-- No save has read anything when a request begins that hands no state of the surface over. -/
theorem recalls_begin [Host] (c : Coordinator) {r : Request} (h : r.keptState? = none) : (c.begin r).Recalls := by
  cases r with
  | hidden => exact (recalls_persist (by simp)).report _
  | visible => exact (recalls_afterReplay _).report _
  | shutdown =>
    simp only [begin]
    split
    · exact recalls_finish _
    · exact recalls_save (by simp)
  | inbound m =>
    simp only [begin, beginInbound]
    split
    · exact (recalls_finish _).report _
    · split
      · next event hm =>
        cases event with
        | newTab tab => exact recalls_await (by simp)
        | prompt tab message text =>
          simp only [beginEvent]
          split
          · exact recalls_afterRelay _ _
          · exact (recalls_finish _).report _
        | saveState state => simp [Request.keptState?, hm] at h
        | requestSavedState => exact recalls_afterRestore _
      · exact calls_drop _ _

end

/-- A state of the surface is saved at once, with the tabs as they are. -/
theorem begin_keeping_next [Host] {c : Coordinator} {r : Request} {state : Json} (h : r.Asks (.saveState state)) :
    (∃ outcome, (c.begin r).next = .finished (.ok outcome)) ∨
      (c.begin r).next = (afterSave c .keeping ⟨[], Save.advance c.shelf ⟨state, [], []⟩ c.tabs⟩).next := by
  obtain ⟨m, rfl, hm⟩ := h
  simp only [begin, beginInbound, hm]
  split
  · exact .inl ⟨_, rfl⟩
  · next hopen =>
    right
    simp [beginEvent, persist, hopen, save, Save.start, Save.collect]

/-! ## Handlers that follow a cut -/

/-- The state of the surface that a save has which is about to read the sessions: the one that its request hands over,
or else the one in the value that the store has just given. -/
def Handler.HasUiState (shelf : Shelf) (h : Handler) (ui : Json) : Prop :=
  h.request.keptState? = some ui ∧ h.dialogue = [] ∨
    h.request.keptState? = none ∧ ∃ d a, h.dialogue = d ++ [(.getValue shelf.key, .ok a)] ∧
      ui = shelf.storedUiState a.toValue

/-- Only a save that has read everything writes. -/
theorem Point.Asks.writing {shelf : Shelf} {shut : Bool} {pt : Point} {key : String} {v : Json}
    (h : pt.Asks shelf shut (.updateValue key v)) :
    ∃ purpose p, pt = .saving purpose (.writing p) ∧ key = shelf.key ∧ v = (p.snapshot shelf).toJson := by
  cases pt with
  | saving purpose sp =>
    obtain ⟨hcall, -⟩ := h
    cases sp with
    | writing p =>
      cases hcall
      exact ⟨purpose, p, rfl, rfl, rfl⟩
    | _ => cases hcall
  | relaying p pt => cases pt <;> cases h
  | restoring pt =>
    cases pt with
    | resuming p tab session rest =>
      obtain ⟨state, hcall⟩ := h
      cases hcall
    | _ => cases h
  | _ => cases h

namespace Scene

theorem run_concat [Host] (s : Scene) (moves : List Move) (m : Move) : s.run (moves ++ [m]) = (s.run moves).step m := by
  simp [Schedule.run]

variable {shelf : Shelf} {visible : Bool} {moves : List Move} {i : Nat} {h : Handler}

section

variable [Host]

/-- The cut is a moment of a schedule. From then on the handler of a request has asked about the bindings of that moment
in their order, and about some of them it has still to ask. -/
structure CutOf (shelf : Shelf) (visible : Bool) (moves : List Move) (i : Nat) (r : Request)
    (d : List (Call × Except Fault Answer)) (rest : TabMap) (cut : Cut) : Prop where
  past : cut.past <+: moves
  handler : ((start shelf visible).run cut.past).handlers[i]? = some cut.handler
  request : cut.handler.request = r
  uiState : cut.handler.HasUiState shelf cut.uiState
  bindings : cut.inquiries.map (·.1) ++ rest = ((start shelf visible).run cut.past).coordinator.tabs
  dialogue : cut.handler.dialogue ++ cut.inquiries.map Inquiry.exchange = d

/-- The answer to the next inquiry has come. -/
theorem CutOf.ask {r : Request} {d : List (Call × Except Fault Answer)} {b : String × String} {rest : TabMap}
    {cut : Cut} (h : CutOf shelf visible moves i r d (b :: rest) cut) (a : Except Fault Answer) :
    CutOf shelf visible moves i r (d ++ [(.readState b.2, a)]) rest (cut.ask (b, a)) where
  past := h.past
  handler := h.handler
  request := h.request
  uiState := h.uiState
  bindings := by simpa [Cut.ask] using h.bindings
  dialogue := by simp [Cut.ask, ← h.dialogue, Inquiry.exchange]

theorem CutOf.later {r : Request} {d : List (Call × Except Fault Answer)} {rest : TabMap} {cut : Cut}
    (h : CutOf shelf visible moves i r d rest cut) (more : List Move) :
    CutOf shelf visible (moves ++ more) i r d rest cut :=
  { h with past := h.past.trans (List.prefix_append moves more) }

/-- How far the save of a handler has come that waits at a point of it. -/
def Follows (shelf : Shelf) (visible : Bool) (moves : List Move) (i : Nat) (r : Request)
    (d : List (Call × Except Fault Answer)) : Save.Point → Prop
  | .recalling => r.keptState? = none
  | .reading p tab session rest =>
    ∃ cut, CutOf shelf visible moves i r d ((tab, session) :: rest) cut ∧ p = cut.progress
  | .writing p => ∃ cut, CutOf shelf visible moves i r d [] cut ∧ p = cut.progress

theorem Follows.later {r : Request} {d : List (Call × Except Fault Answer)} {sp : Save.Point}
    (h : Follows shelf visible moves i r d sp) (more : List Move) :
    Follows shelf visible (moves ++ more) i r d sp := by
  cases sp with
  | recalling => exact h
  | reading p tab session rest =>
    obtain ⟨cut, hcut, hp⟩ := h
    exact ⟨cut, hcut.later more, hp⟩
  | writing p =>
    obtain ⟨cut, hcut, hp⟩ := h
    exact ⟨cut, hcut.later more, hp⟩

end

theorem coordinator_advance (c : Coordinator) (purpose : Purpose) (notices : List Notice) (p : Save.Progress)
    (rest : TabMap) : (afterSave c purpose ⟨notices, Save.advance c.shelf p rest⟩).coordinator = c := by
  cases rest <;> rfl

/-- A save goes on to read what is left, or to write. -/
theorem follows_advance [Host] {r : Request} {d : List (Call × Except Fault Answer)} {rest : TabMap} {cut : Cut}
    (h : CutOf shelf visible moves i r d rest cut) (c : Coordinator) (purpose : Purpose) (notices : List Notice) :
    ∃ call sp, (afterSave c purpose ⟨notices, Save.advance c.shelf cut.progress rest⟩).next =
      .waiting call (.saving purpose sp) ∧ Follows shelf visible moves i r d sp := by
  cases rest with
  | nil => exact ⟨_, .writing cut.progress, rfl, cut, h, rfl⟩
  | cons b rest => exact ⟨_, .reading cut.progress b.1 b.2 rest, rfl, cut, h, rfl⟩

/-- Nothing was written in a dialogue. -/
def Unwritten (d : List (Call × Except Fault Answer)) : Prop := ∀ key v, .updateValue key v ∉ d.map (·.1)

theorem Unwritten.concat {d : List (Call × Except Fault Answer)} (h : Unwritten d) {call : Call}
    (hcall : ∀ key v, call ≠ .updateValue key v) (a : Except Fault Answer) : Unwritten (d ++ [(call, a)]) := by
  intro key v hmem
  rcases List.mem_append.1 (List.map_append ▸ hmem) with hmem | hmem
  · exact h key v hmem
  · exact hcall key v (List.mem_singleton.1 hmem).symm

section

variable [Host]

/-- A handler has ended with the writing of the snapshot of a cut, and tells of it what there is to tell. -/
structure Wrote (shelf : Shelf) (visible : Bool) (moves : List Move) (i : Nat) (h : Handler) (cut : Cut)
    (d : List (Call × Except Fault Answer)) (a : Except Fault Answer) : Prop where
  reads : CutOf shelf visible moves i h.request d [] cut
  unwritten : Unwritten d
  dialogue : h.dialogue = d ++ [(.updateValue shelf.key (cut.snapshot shelf).toJson, a)]
  told : ∀ outcome saved, h.status = .finished (.ok outcome) → outcome.saveResult? = some saved → saved = cut.result

/-- A handler has written nothing yet, and its save follows a cut, or its writing was its end. -/
structure Traced (shelf : Shelf) (visible : Bool) (moves : List Move) (i : Nat) (h : Handler) : Prop where
  waits : ∀ call pt, h.status = .waiting call pt → Unwritten h.dialogue ∧
    ∀ purpose sp, pt = .saving purpose sp → Follows shelf visible moves i h.request h.dialogue sp
  ends : ∀ result, h.status = .finished result → Unwritten h.dialogue ∨
    ∃ cut d a, Wrote shelf visible moves i h cut d a

theorem Traced.later {h : Handler} (ht : Traced shelf visible moves i h) (more : List Move) :
    Traced shelf visible (moves ++ more) i h where
  waits call pt hw := by
    obtain ⟨hd, hfollows⟩ := ht.waits call pt hw
    exact ⟨hd, fun purpose sp hpt => (hfollows purpose sp hpt).later more⟩
  ends result hr := (ht.ends result hr).imp_right fun ⟨cut, d, a, hcut⟩ =>
    ⟨cut, d, a, { hcut with reads := hcut.reads.later more }⟩

/-- A turn after which no save has read anything. -/
theorem traced_of_recalls {r : Request} {d : List (Call × Except Fault Answer)} {t : Turn} (hd : Unwritten d)
    (ht : t.Recalls) (hserves : t.Serves r) : Traced shelf visible moves i ⟨r, d, t.next⟩ where
  waits call pt hw := by
    refine ⟨hd, ?_⟩
    rintro purpose sp rfl
    obtain ⟨rfl, hp⟩ := ht call _ hw purpose sp rfl
    exact keptState?_of_serves (hserves call _ hw) hp
  ends _ _ := .inl hd

/-- A turn after which a save waits that follows a cut. -/
theorem traced_of_waiting {r : Request} {d : List (Call × Except Fault Answer)} {next : Next Call Point Outcome}
    (hd : Unwritten d)
    (h : ∃ call purpose sp, next = .waiting call (.saving purpose sp) ∧ Follows shelf visible moves i r d sp) :
    Traced shelf visible moves i ⟨r, d, next⟩ where
  waits call pt hw := by
    obtain ⟨call', purpose', sp', rfl, hfollows⟩ := h
    refine ⟨hd, ?_⟩
    rintro purpose sp rfl
    cases hw
    exact hfollows
  ends result hr := by
    obtain ⟨call, purpose, sp, rfl, -⟩ := h
    cases hr

end

/-- A handler whose save is written tells what came of this save, or nothing of it. -/
theorem told_of_written {c : Coordinator} {purpose : Purpose} {p : Save.Progress} {b : Answer} {outcome : Outcome}
    {told : SaveResult} (h : (c.resume (.ok b) (.saving purpose (.writing p))).next = .finished (.ok outcome))
    (ht : outcome.saveResult? = some told) : told = p.result := by
  cases purpose with
  | failing q cause n =>
    cases h
    cases ht
  | _ =>
    cases h
    exact (Option.some.inj ht).symm

/-- A handler has begun. -/
theorem traced_begin [Host] (m : Move) {r : Request} (hm : m = .begin r)
    (hi : i = ((start shelf visible).run moves).handlers.length) :
    Traced shelf visible (moves ++ [m]) i ⟨r, [], (((start shelf visible).run moves).coordinator.begin r).next⟩ := by
  have hnil : Unwritten [] := fun key v hmem => nomatch hmem
  generalize hs : (start shelf visible).run moves = s at hi ⊢
  cases hkept : r.keptState? with
  | none => exact traced_of_recalls hnil (recalls_begin _ hkept) (serves_begin _ r)
  | some state =>
    rcases begin_keeping_next (c := s.coordinator) (keptState?_eq_some.1 hkept) with ⟨outcome, hend⟩ | hnext
    · exact ⟨fun call pt hw => (by rw [hend] at hw; cases hw), fun _ _ => .inl hnil⟩
    · have hscene : (start shelf visible).run (moves ++ [m]) = s.step (.begin r) := by
        rw [run_concat, hs, hm]
      have hcut : CutOf shelf visible (moves ++ [m]) i r [] s.coordinator.tabs
          ⟨moves ++ [m], ⟨r, [], (s.coordinator.begin r).next⟩, state, []⟩ := by
        refine ⟨List.prefix_rfl, ?_, rfl, .inl ⟨hkept, rfl⟩, ?_, rfl⟩
        · rw [hscene, hi]
          simp [Schedule.step]
        · rw [hscene]
          exact (tabs_begin s.coordinator r).symm
      obtain ⟨call, sp, hw, hfollows⟩ := follows_advance hcut s.coordinator .keeping []
      exact traced_of_waiting hnil ⟨call, .keeping, sp, hnext.trans hw, hfollows⟩

section Answers

variable {c : Coordinator} {r : Request} {d : List (Call × Except Fault Answer)} {purpose : Purpose}
  (hd : Unwritten d) (a : Except Fault Answer)

include hd

/-- The store has given what it holds: a save begins to read, and this is the moment of its cut. -/
theorem traced_recalled [Host] (hkept : r.keptState? = none)
    (hi : ((start shelf visible).run moves).handlers[i]? =
      some ⟨r, d ++ [(.getValue shelf.key, a)], (c.resume a (.saving purpose .recalling)).next⟩)
    (htabs : ((start shelf visible).run moves).coordinator.tabs = c.tabs) (hshelf : c.shelf = shelf) :
    Traced shelf visible moves i
      ⟨r, d ++ [(.getValue shelf.key, a)], (c.resume a (.saving purpose .recalling)).next⟩ := by
  have hunwritten := hd.concat (show ∀ key v, Call.getValue shelf.key ≠ .updateValue key v by simp) a
  cases a with
  | error f => exact ⟨fun call pt hw => (nomatch hw), fun _ _ => .inl hunwritten⟩
  | ok b =>
    subst hshelf
    have hcut : CutOf c.shelf visible moves i r (d ++ [(.getValue c.shelf.key, .ok b)]) c.tabs
        ⟨moves, ⟨r, d ++ [(.getValue c.shelf.key, .ok b)], (c.resume (.ok b) (.saving purpose .recalling)).next⟩,
          c.shelf.storedUiState b.toValue, []⟩ :=
      ⟨List.prefix_rfl, hi, rfl, .inr ⟨hkept, d, b, rfl, rfl⟩, htabs.symm, List.append_nil _⟩
    obtain ⟨call, sp, hw, hfollows⟩ := follows_advance hcut c purpose []
    exact traced_of_waiting hunwritten ⟨call, purpose, sp, hw, hfollows⟩

/-- A save has read the state of a session, or learned that it cannot be read. -/
theorem traced_read [Host] {p : Save.Progress} {tab session : String} {rest : TabMap}
    (h : Follows shelf visible moves i r d (.reading p tab session rest)) :
    Traced shelf visible moves i
      ⟨r, d ++ [(.readState session, a)], (c.resume a (.saving purpose (.reading p tab session rest))).next⟩ := by
  obtain ⟨cut, hcut, rfl⟩ := h
  have hunwritten := hd.concat (show ∀ key v, Call.readState session ≠ .updateValue key v by simp) a
  have hasked := hcut.ask a
  cases a with
  | error f =>
    obtain ⟨call, sp, hw, hfollows⟩ := follows_advance hasked c purpose [.stateUnreadable session tab f.text]
    rw [Cut.progress_ask_error] at hw
    exact traced_of_waiting hunwritten ⟨call, purpose, sp, hw, hfollows⟩
  | ok b =>
    obtain ⟨call, sp, hw, hfollows⟩ := follows_advance hasked c purpose []
    rw [Cut.progress_ask_ok] at hw
    exact traced_of_waiting hunwritten ⟨call, purpose, sp, hw, hfollows⟩

/-- A save has written, and its handler ends. -/
theorem traced_written [Host] {p : Save.Progress} (h : Follows shelf visible moves i r d (.writing p)) :
    Traced shelf visible moves i
      ⟨r, d ++ [(saveCall shelf (.writing p), a)], (c.resume a (.saving purpose (.writing p))).next⟩ := by
  obtain ⟨cut, hcut, rfl⟩ := h
  rw [saveCall, Cut.snapshot_progress]
  cases a with
  | error f =>
    refine ⟨fun call pt hw => (nomatch hw), fun _ _ => .inr ⟨cut, d, _, hcut, hd, rfl, ?_⟩⟩
    exact fun outcome saved hr => nomatch hr
  | ok b =>
    refine ⟨fun call pt hw => ?_, fun _ _ => .inr ⟨cut, d, _, hcut, hd, rfl, fun outcome told hr ht => ?_⟩⟩
    · cases purpose <;> cases hw
    · exact (told_of_written (b := b) hr ht).trans cut.result_progress

end Answers

section

variable [Host]

/-- A handler goes on with an answer. -/
theorem traced_answer (m : Move) {a : Except Fault Answer} (hm : m = .answer i a) {r : Request}
    {d : List (Call × Except Fault Answer)} {call : Call} {pt : Point}
    (hi : ((start shelf visible).run moves).handlers[i]? = some ⟨r, d, .waiting call pt⟩)
    (ht : Traced shelf visible moves i ⟨r, d, .waiting call pt⟩) :
    Traced shelf visible (moves ++ [m]) i
      ⟨r, d ++ [(call, a)], (((start shelf visible).run moves).coordinator.resume a pt).next⟩ := by
  have hask := (asking_run shelf visible moves).asks _ (List.mem_of_getElem? hi) call pt rfl
  have hserves := serving_run shelf visible moves _ (List.mem_of_getElem? hi) call pt rfl
  have hshelf := (asking_run shelf visible moves).kept
  obtain ⟨hd, hsave⟩ := ht.waits call pt rfl
  have hscene : (start shelf visible).run (moves ++ [m]) = ((start shelf visible).run moves).step (.answer i a) := by
    rw [run_concat, hm]
  rw [step_answer hi a] at hscene
  generalize hs : (start shelf visible).run moves = s at *
  have hlt : i < s.handlers.length := (List.getElem?_eq_some_iff.1 hi).1
  cases pt with
  | saving purpose sp =>
    obtain ⟨rfl, -⟩ : call = saveCall shelf sp ∧ _ := hask
    have hfollows := (hsave purpose sp rfl).later [m]
    cases sp with
    | recalling =>
      refine traced_recalled hd a hfollows ?_ ?_ hshelf
      · rw [hscene]
        simp [hlt, saveCall]
      · rw [hscene]
        cases a with
        | error f => rfl
        | ok b => exact congrArg Coordinator.tabs (coordinator_advance s.coordinator purpose [] _ s.coordinator.tabs)
    | reading p tab session rest => exact traced_read hd a hfollows
    | writing p => exact traced_written hd a hfollows
  | _ =>
    refine traced_of_recalls (hd.concat ?_ a) (recalls_resume _ a (by simp)) (serves_resume _ a hserves)
    rintro key v rfl
    obtain ⟨purpose, p, hpt, -⟩ := hask.writing
    cases hpt

/-- Every handler is traced after every schedule. -/
theorem traced_run (shelf : Shelf) (visible : Bool) (moves : List Move) {i : Nat} {h : Handler}
    (hi : ((start shelf visible).run moves).handlers[i]? = some h) : Traced shelf visible moves i h := by
  -- The induction is on the schedule from its end, so that the moment of a cut is one of its beginnings.
  induction moves using List.reverseRecOn generalizing i h with
  | nil => cases hi
  | append_singleton moves m ih =>
    have hshift := step_shift ((start shelf visible).run moves) m
    rw [← run_concat] at hshift
    generalize hs' : (start shelf visible).run (moves ++ [m]) = s' at hi hshift
    cases hshift with
    | idle => exact (ih hi).later [_]
    | begin r =>
      rcases Schedule.handler_begin hi with hi | ⟨hge, rfl⟩
      · exact (ih hi).later [_]
      · have hlen := (List.getElem?_eq_some_iff.1 hi).1
        refine traced_begin (.begin r) rfl (Nat.le_antisymm ?_ hge)
        simpa [Nat.lt_succ_iff] using hlen
    | answer j a r d call pt hj =>
      rcases Schedule.handler_answer hi with ⟨-, hi⟩ | ⟨rfl, rfl⟩
      · exact (ih hi).later [_]
      · exact traced_answer (.answer i a) rfl hj (ih hj)

/-! ## Snapshots -/

/-- No tab is bound twice. -/
theorem nodup_tabs_run (shelf : Shelf) (visible : Bool) (moves : List Move) :
    (Assoc.keys ((start shelf visible).run moves).coordinator.tabs).Nodup := by
  refine Schedule.run_induction (P := fun s : Scene => (Assoc.keys s.coordinator.tabs).Nodup) ?_
    (show (Assoc.keys ([] : TabMap)).Nodup from List.nodup_nil) moves
  intro (s : Scene) m (s' : Scene) hs h
  cases hs with
  | begin r =>
    rw [tabs_begin]
    exact h
  | idle => exact h
  | answer i a r d call pt hi =>
    have hrebind := resume_rebinding s.coordinator a pt
    generalize (s.coordinator.resume a pt).coordinator.tabs = tabs at hrebind ⊢
    cases hrebind with
    | opened tab a => exact Assoc.nodup_keys_put _ _ h
    | revived p tab session rest a => exact Assoc.nodup_keys_put _ _ h
    | forgotten => exact List.nodup_nil
    | kept => exact h

/-- A cut agrees with the bindings of its moment: its result tells of every tab once, and each of its records has the
session that the tab was bound to, with a state that was read for this session since. -/
structure Agrees (cut : Cut) (tabs : TabMap) (d : List (Call × Except Fault Answer)) : Prop where
  nodup : (Assoc.keys tabs).Nodup
  divides : Divides cut.result tabs
  records : ∀ record ∈ cut.records, tabs.session? record.tab = some record.session ∧
    ∃ a, (.readState record.session, .ok a) ∈ d.drop cut.handler.dialogue.length ∧ record.state = a.toValue

theorem CutOf.agrees {r : Request} {d : List (Call × Except Fault Answer)} {cut : Cut}
    (h : CutOf shelf visible moves i r d [] cut) :
    Agrees cut ((start shelf visible).run cut.past).coordinator.tabs d := by
  have hnodup := nodup_tabs_run shelf visible cut.past
  have hbindings := h.bindings
  rw [List.append_nil] at hbindings
  refine ⟨hnodup, Cut.divides hbindings, fun record hrecord => ?_⟩
  obtain ⟨a, hmem, hstate⟩ := Cut.mem_records hrecord
  have hbound := List.mem_map_of_mem (f := (·.1)) hmem
  rw [hbindings] at hbound
  refine ⟨Assoc.get?_of_mem hnodup hbound, a, ?_, hstate⟩
  rw [← h.dialogue, List.drop_left]
  exact List.mem_map_of_mem (f := Inquiry.exchange) hmem

/-- What a handler writes is the snapshot of a cut, and what it tells of its save is the result of this cut. -/
theorem cut_of_write (hi : ((start shelf visible).run moves).handlers[i]? = some h) {key : String} {v : Json}
    (hwrite : .updateValue key v ∈ h.calls) :
    ∃ cut d, CutOf shelf visible moves i h.request d [] cut ∧ d <+: h.dialogue ∧ Unwritten d ∧
      key = shelf.key ∧ v = (cut.snapshot shelf).toJson ∧
      ∀ outcome told, h.status = .finished (.ok outcome) → outcome.saveResult? = some told → told = cut.result := by
  have htraced := traced_run shelf visible moves hi
  cases hstatus : h.status with
  | waiting call pt =>
    obtain ⟨hunwritten, hfollows⟩ := htraced.waits call pt hstatus
    rw [Schedule.Handler.calls, hstatus] at hwrite
    obtain rfl : .updateValue key v = call :=
      List.mem_singleton.1 ((List.mem_append.1 hwrite).resolve_left (hunwritten key v))
    have hask := (asking_run shelf visible moves).asks _ (List.mem_of_getElem? hi) _ pt hstatus
    obtain ⟨purpose, p, rfl, hkey, hv⟩ := hask.writing
    obtain ⟨cut, hcut, rfl⟩ := hfollows purpose (.writing p) rfl
    rw [Cut.snapshot_progress] at hv
    exact ⟨cut, h.dialogue, hcut, List.prefix_rfl, hunwritten, hkey, hv, fun _ _ hr => by cases hr⟩
  | finished result =>
    rw [Schedule.Handler.calls, hstatus, List.append_nil] at hwrite
    obtain hunwritten | ⟨cut, d, a, hcut, hunwritten, hdialogue, htold⟩ := htraced.ends result hstatus
    · exact absurd hwrite (hunwritten key v)
    · rw [hdialogue, List.map_append] at hwrite
      obtain ⟨rfl, rfl⟩ := Call.updateValue.inj
        (List.mem_singleton.1 ((List.mem_append.1 hwrite).resolve_left (hunwritten key v)))
      refine ⟨cut, d, hcut, hdialogue ▸ List.prefix_append _ _, hunwritten, rfl, rfl, ?_⟩
      exact fun outcome told hr => htold outcome told (hstatus.trans hr)

/-- Whatever comes between, the snapshot that a save writes is one of one moment, and so is the result that it tells.
The moment comes after the save has read the stored snapshot and before its handler writes anything. -/
theorem snapshot_of_one_moment (shelf : Shelf) (visible : Bool) (moves : List Move) {i : Nat} {h : Handler}
    (hi : ((start shelf visible).run moves).handlers[i]? = some h) {key : String} {v : Json}
    (hwrite : .updateValue key v ∈ h.calls) :
    ∃ cut d, CutOf shelf visible moves i h.request d [] cut ∧ d <+: h.dialogue ∧ Unwritten d ∧
      key = shelf.key ∧ v = (cut.snapshot shelf).toJson ∧
      Agrees cut ((start shelf visible).run cut.past).coordinator.tabs d ∧
      ∀ outcome told, h.status = .finished (.ok outcome) → outcome.saveResult? = some told → told = cut.result := by
  obtain ⟨cut, d, hcut, hd, hunwritten, hkey, hv, htold⟩ := cut_of_write hi hwrite
  exact ⟨cut, d, hcut, hd, hunwritten, hkey, hv, hcut.agrees, htold⟩

end

/-- While a save reads the session of `t`, a new tab `t` is opened. -/
def reboundMidway : List Move :=
  [.begin (.inbound (newTabMessage "t")), .answer 0 (.ok (.session "old")), .begin .hidden,
    .answer 1 (.ok (.value .null)), .begin (.inbound (newTabMessage "t")), .answer 2 (.ok (.session "new")),
    .answer 1 (.ok (.value (.int 5)))]

section

attribute [local instance] Host.sample

/-- The snapshot has the session that was bound when the save began to read, with its state. -/
theorem reboundMidway_of_one_moment :
    let s := (start ⟨"k", 1⟩ true).run reboundMidway
    s.coordinator.tabs.session? "t" = some "new" ∧
      ∃ cut d, CutOf ⟨"k", 1⟩ true reboundMidway 1 .hidden d [] cut ∧
        (cut.snapshot ⟨"k", 1⟩).toJson = (Snapshot.mk 1 [⟨"t", "old", .int 5⟩] .null).toJson ∧
        ((start ⟨"k", 1⟩ true).run cut.past).coordinator.tabs.session? "t" = some "old" := by
  intro s
  let reading : List (Call × Except Fault Answer) :=
    [(.getValue "k", .ok (.value .null)), (.readState "old", .ok (.value (.int 5)))]
  let p : Save.Progress := ⟨.null, [⟨"t", "old", .int 5⟩], []⟩
  let call : Call := .updateValue "k" (p.snapshot ⟨"k", 1⟩).toJson
  have hi : s.handlers[1]? = some ⟨.hidden, reading, .waiting call (.saving .hiding (.writing p))⟩ := rfl
  refine ⟨rfl, ?_⟩
  obtain ⟨cut, d, hcut, -, -, -, hv, hagrees, -⟩ :=
    snapshot_of_one_moment ⟨"k", 1⟩ true reboundMidway hi (List.mem_append_right _ List.mem_cons_self)
  have hsessions : [Snapshot.recordMember ⟨"t", "old", .int 5⟩] = cut.records.map Snapshot.recordMember :=
    Json.obj.inj (congrArg (·.getD "sessions") hv)
  obtain ⟨record, hrecord, hmember⟩ := List.map_eq_singleton_iff.1 hsessions.symm
  have hbound := (hagrees.records record (hrecord ▸ List.mem_singleton_self _)).1
  obtain ⟨tab, session, state⟩ := record
  obtain ⟨rfl, rfl, rfl⟩ : tab = "t" ∧ session = "old" ∧ state = .int 5 := by
    simpa [Snapshot.recordMember] using hmember
  exact ⟨cut, d, hcut, hv.symm, hbound⟩

end

end Scene

end ChatRelay.Coordinator
