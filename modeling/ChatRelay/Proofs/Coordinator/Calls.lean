import ChatRelay.Proofs.Coordinator.Scene
import ChatRelay.Proofs.Outbox.Events

/-!
# What handlers ask for

- `Point.Asks`: the call of a handler that waits at a point. The last save is made by a coordinator that was shut down;
- `Turn.Proper`: a turn that leaves the shelf alone and asks for what belongs to its point (`proper_begin`,
  `proper_resume`). Only a shutdown closes the coordinator;
- `Scene.asking_run`: so it is with every handler after every schedule.
-/

namespace ChatRelay.Coordinator

/-! ## Calls and points -/

/-- The call of a relay that waits at a point. -/
def relayCall (p : Prompt) : Relay.Point → Call
  | .opening => .openStream p.session p.text
  | .pulling _ => .pullStream
  | .closing _ => .closeStream

/-- The call of a save that waits at a point. -/
def saveCall (shelf : Shelf) : Save.Point → Call
  | .recalling => .getValue shelf.key
  | .reading _ _ session _ => .readState session
  | .writing progress => .updateValue shelf.key (progress.snapshot shelf).toJson

/-- A call of a restoration that waits at a point. The point does not keep the state that a session is resumed with. -/
def RestoreCall (shelf : Shelf) : Restore.Point → Call → Prop
  | .reading, call => call = .getValue shelf.key
  | .discarding _, call => call = .deleteValue shelf.key
  | .resuming _ _ session _, call => ∃ state, call = .resumeSession session state

/-- The call of a handler that waits at a point. -/
def Point.Asks (shelf : Shelf) (shut : Bool) : Point → Call → Prop
  | .creating _, call => call = .createSession
  | .relaying p pt, call => call = relayCall p pt
  | .passing _ _ pt, call => call = .deliver pt.event
  | .reporting _ _ _ pt, call => call = .deliver pt.event
  | .saving purpose pt, call => call = saveCall shelf pt ∧ (purpose = .leaving → shut = true)
  | .restoring pt, call => RestoreCall shelf pt call
  | .announcing restored, call => call = .deliver (.restoreState restored.uiState)
  | .replaying pt, call => call = .deliver pt.event

theorem Point.Asks.shut {shelf : Shelf} {b : Bool} {pt : Point} {call : Call} (h : pt.Asks shelf b call) :
    pt.Asks shelf true call := by
  cases pt with
  | saving purpose pt => exact ⟨h.1, fun _ => rfl⟩
  | _ => exact h

/-- The next step of a routine, when it waits, makes the call of its point. -/
def Calls {ρ α : Type} (P : ρ → Call → Prop) (next : Next Call ρ α) : Prop :=
  ∀ call pt, next = .waiting call pt → P pt call

theorem calls_finished {ρ α : Type} {P : ρ → Call → Prop} (r : Except Fault α) : Calls P (.finished r) := by
  rintro call pt ⟨⟩

theorem calls_waiting {ρ α : Type} {P : ρ → Call → Prop} {call : Call} {pt : ρ} (h : P pt call) :
    Calls P (.waiting call pt : Next Call ρ α) := by
  rintro call pt ⟨⟩
  exact h

/-! ## Routines -/

theorem calls_saveAdvance (shelf : Shelf) (progress : Save.Progress) (tabs : TabMap) :
    Calls (fun pt call => call = saveCall shelf pt) (Save.advance shelf progress tabs) := by
  cases tabs <;> exact calls_waiting rfl

theorem calls_saveStart (shelf : Shelf) (tabs : TabMap) (uiState : Option Json) :
    Calls (fun pt call => call = saveCall shelf pt) (Save.start shelf tabs uiState).next := by
  cases uiState with
  | some ui => exact calls_saveAdvance _ _ _
  | none => exact calls_waiting rfl

theorem calls_saveResume (shelf : Shelf) (tabs : TabMap) (pt : Save.Point) (a : Except Fault Answer) :
    Calls (fun pt call => call = saveCall shelf pt) (Save.resume shelf tabs pt a).next := by
  cases pt with
  | writing => cases a <;> exact calls_finished _
  | reading => cases a <;> exact calls_saveAdvance _ _ _
  | recalling =>
    cases a with
    | ok => exact calls_saveAdvance _ _ _
    | error => exact calls_finished _

theorem calls_passed (p : Prompt) (handover : Relay.Handover) (r : Except Fault Unit) :
    Calls (fun pt call => call = relayCall p pt) (Relay.passed handover r) := by
  cases handover with
  | chunk n => cases r <;> exact calls_waiting rfl
  | completion n => cases r <;> exact calls_finished _

theorem calls_relayResume {p : Prompt} {pt : Relay.Point} {a : Except Fault Answer} {next : Next Call Relay.Point Nat}
    (h : Relay.resume p pt a = .next next) : Calls (fun pt call => call = relayCall p pt) next := by
  unfold Relay.resume Relay.finish at h
  split at h <;> cases h
  all_goals first | exact calls_waiting rfl | exact calls_finished _

theorem calls_restoreAdvance (shelf : Shelf) (tabs : TabMap) (progress : Restore.Progress)
    (records : List (String × Json)) : Calls (RestoreCall shelf) (Restore.advance tabs progress records).next := by
  induction records generalizing progress with
  | nil => exact calls_finished _
  | cons r rest ih =>
    obtain ⟨tab, record⟩ := r
    unfold Restore.advance
    split
    · exact ih _
    · split
      · exact ih _
      · exact calls_waiting ⟨_, rfl⟩

theorem calls_restoreResume (shelf : Shelf) (tabs : TabMap) (pt : Restore.Point) (a : Except Fault Answer) :
    Calls (RestoreCall shelf) (Restore.resume shelf tabs pt a).next := by
  cases pt with
  | reading =>
    cases a with
    | error => exact calls_finished _
    | ok a =>
      simp only [Restore.resume, Restore.read]
      split
      · split
        · exact calls_restoreAdvance _ _ _ _
        · exact calls_waiting rfl
      · exact calls_finished _
      · exact calls_finished _
  | discarding => cases a <;> exact calls_finished _
  | resuming => cases a <;> exact calls_restoreAdvance _ _ _ _

/-! ## Turns -/

/-- A turn that leaves the shelf alone and asks for what belongs to the point it waits at. -/
structure Turn.Proper (shelf : Shelf) (shut : Bool) (t : Turn) : Prop where
  kept : t.coordinator.shelf = shelf
  closed : t.coordinator.closed = shut
  asks : Calls (Point.Asks shelf shut) t.next

theorem Turn.Proper.report {shelf : Shelf} {shut : Bool} {t : Turn} (h : t.Proper shelf shut) (notices : List Notice) :
    (t.report notices).Proper shelf shut := ⟨h.kept, h.closed, h.asks⟩

theorem proper_finish (c : Coordinator) (outcome : Outcome) : (finish c outcome).Proper c.shelf c.closed :=
  ⟨rfl, rfl, calls_finished _⟩

theorem proper_fail (c : Coordinator) (f : Fault) : (fail c f).Proper c.shelf c.closed := ⟨rfl, rfl, calls_finished _⟩

theorem proper_await (c : Coordinator) {call : Call} {pt : Point} (h : pt.Asks c.shelf c.closed call) :
    (await c call pt).Proper c.shelf c.closed := ⟨rfl, rfl, calls_waiting h⟩

theorem proper_conclude (c : Coordinator) (purpose : Purpose) (saved : SaveResult) :
    (conclude c purpose saved).Proper c.shelf c.closed := by
  cases purpose with
  | leaving => exact ⟨rfl, rfl, calls_finished _⟩
  | _ => exact proper_finish _ _

theorem proper_afterSave {c : Coordinator} {purpose : Purpose} (hp : purpose = .leaving → c.closed = true)
    {t : Save.Turn} (h : Calls (fun pt call => call = saveCall c.shelf pt) t.next) :
    (afterSave c purpose t).Proper c.shelf c.closed := by
  unfold afterSave
  rcases ht : t.next with (f | saved) | ⟨call, pt⟩
  · exact (proper_fail _ _).report _
  · exact (proper_conclude _ _ _).report _
  · have hasks : (Point.saving purpose pt).Asks c.shelf c.closed call := ⟨h call pt ht, hp⟩
    exact (proper_await c hasks).report _

theorem proper_save {c : Coordinator} {purpose : Purpose} (hp : purpose = .leaving → c.closed = true)
    (uiState : Option Json) : (save c purpose uiState).Proper c.shelf c.closed :=
  proper_afterSave hp (calls_saveStart _ _ _)

theorem proper_persist (c : Coordinator) {purpose : Purpose} (hp : purpose ≠ .leaving) (uiState : Option Json) :
    (persist c purpose uiState).Proper c.shelf c.closed := by
  unfold persist
  split
  · exact proper_conclude _ _ _
  · exact proper_save (fun h => absurd h hp) _

theorem proper_afterReport (c : Coordinator) (p : Prompt) (cause : Fault) (n : Nat) {t : Outbox.Turn Outbound}
    (h : t.Asks) : (afterReport c p cause n t).Proper c.shelf c.closed := by
  unfold afterReport
  refine Turn.Proper.report ?_ _
  rcases ht : t.next with (f | _) | ⟨e, pt⟩
  · exact proper_fail { c with outbox := t.outbox } f
  · exact proper_persist { c with outbox := t.outbox } (by simp) _
  · exact proper_await { c with outbox := t.outbox } (congrArg Call.deliver (h e pt ht))

theorem proper_afterRelay (c : Coordinator) (p : Prompt) {next : Next Call Relay.Point Nat}
    (h : Calls (fun pt call => call = relayCall p pt) next) : (afterRelay c p next).Proper c.shelf c.closed := by
  unfold afterRelay
  split
  · exact (proper_persist _ (by simp) _).report _
  · exact (proper_afterReport _ _ _ _ (Outbox.asks_send _ _)).report _
  · exact proper_fail _ _
  · exact proper_await c (h _ _ rfl)

theorem proper_afterPass (c : Coordinator) (p : Prompt) (handover : Relay.Handover) {t : Outbox.Turn Outbound}
    (h : t.Asks) : (afterPass c p handover t).Proper c.shelf c.closed := by
  unfold afterPass
  refine Turn.Proper.report ?_ _
  rcases ht : t.next with r | ⟨e, pt⟩
  · exact proper_afterRelay { c with outbox := t.outbox } p (calls_passed p handover r)
  · exact proper_await { c with outbox := t.outbox } (congrArg Call.deliver (h e pt ht))

theorem proper_afterStep (c : Coordinator) (p : Prompt) (pt : Relay.Point) (a : Except Fault Answer) :
    (afterStep c p (Relay.resume p pt a)).Proper c.shelf c.closed := by
  cases h : Relay.resume p pt a with
  | pass event handover => exact proper_afterPass c p handover (Outbox.asks_send _ _)
  | next next => exact proper_afterRelay c p (calls_relayResume h)

theorem proper_afterRestore (c : Coordinator) {t : Restore.Turn} (h : Calls (RestoreCall c.shelf) t.next) :
    (afterRestore c t).Proper c.shelf c.closed := by
  unfold afterRestore
  refine Turn.Proper.report ?_ _
  rcases ht : t.next with (f | restored) | ⟨call, pt⟩
  · exact proper_fail { c with tabs := t.tabs } f
  · exact proper_await { c with tabs := t.tabs } rfl
  · exact proper_await { c with tabs := t.tabs } (h call pt ht)

theorem proper_afterReplay (c : Coordinator) {t : Outbox.Turn Outbound} (h : t.Asks) :
    (afterReplay c t).Proper c.shelf c.closed := by
  unfold afterReplay
  refine Turn.Proper.report ?_ _
  rcases ht : t.next with (f | _) | ⟨e, pt⟩
  · exact proper_fail { c with outbox := t.outbox } f
  · exact proper_finish { c with outbox := t.outbox } _
  · exact proper_await { c with outbox := t.outbox } (congrArg Call.deliver (h e pt ht))

theorem proper_beginEvent (c : Coordinator) (event : Inbound) : (beginEvent c event).Proper c.shelf c.closed := by
  unfold beginEvent
  split
  · exact proper_await c rfl
  · split
    · exact proper_afterRelay c _ (calls_waiting rfl)
    · exact (proper_finish _ _).report _
  · exact proper_persist _ (by simp) _
  · exact proper_afterRestore c (calls_waiting rfl)

/-- A message that is dropped asks for nothing. -/
theorem calls_drop [Host] {P : Point → Call → Prop} (c : Coordinator) (refusal : Inbound.Refusal) :
    Calls P (c.drop refusal).next :=
  fun call pt hn => absurd hn (drop_ne_waiting c refusal call pt)

theorem proper_drop [Host] (c : Coordinator) (refusal : Inbound.Refusal) :
    (drop c refusal).Proper c.shelf c.closed := by
  obtain ⟨reason, hd⟩ | ⟨f, hd⟩ := drop_cases c refusal
  · exact hd ▸ (proper_finish c _).report _
  · exact hd ▸ proper_fail c f

theorem proper_beginInbound [Host] (c : Coordinator) (m : Json) : (beginInbound c m).Proper c.shelf c.closed := by
  unfold beginInbound
  split
  · exact (proper_finish _ _).report _
  · split
    · exact proper_beginEvent _ _
    · exact proper_drop _ _

/-- Whether a request closes the coordinator. -/
def Request.closes : Request → Bool
  | .inbound _ => false
  | .hidden => false
  | .visible => false
  | .shutdown => true

theorem proper_begin [Host] (c : Coordinator) (r : Request) : (c.begin r).Proper c.shelf (c.closed || r.closes) := by
  cases r with
  | inbound m =>
    rw [Request.closes, Bool.or_false]
    exact proper_beginInbound c m
  | hidden =>
    rw [Request.closes, Bool.or_false]
    exact (proper_persist { c with outbox := c.outbox.hold } (by simp) _).report _
  | visible =>
    rw [Request.closes, Bool.or_false]
    exact (proper_afterReplay c (Outbox.asks_flush _)).report _
  | shutdown =>
    rw [Request.closes, Bool.or_true]
    simp only [begin]
    split
    · next hc =>
      have h := proper_finish c (.saved .nothing)
      rwa [hc] at h
    · exact proper_save (c := { c with closed := true }) (fun _ => rfl) _

theorem proper_resume (c : Coordinator) (a : Except Fault Answer) {pt : Point} {call : Call}
    (hpt : pt.Asks c.shelf c.closed call) : (c.resume a pt).Proper c.shelf c.closed := by
  cases pt with
  | creating tab =>
    cases a with
    | ok a => exact (proper_persist { c with tabs := c.tabs.bind tab a.toSession } (by simp) _).report _
    | error f => exact proper_fail c f
  | relaying p pt => exact proper_afterStep c p pt a
  | passing p handover pt => exact proper_afterPass c p handover (Outbox.asks_resume _ _ _)
  | reporting p cause n pt => exact proper_afterReport c p cause n (Outbox.asks_resume _ _ _)
  | saving purpose pt => exact proper_afterSave hpt.2 (calls_saveResume _ _ _ _)
  | restoring pt => exact proper_afterRestore c (calls_restoreResume _ _ _ _)
  | announcing restored =>
    cases a with
    | ok _ => exact proper_finish _ _
    | error f => exact proper_fail _ _
  | replaying pt => exact proper_afterReplay c (Outbox.asks_resume _ _ _)

/-! ## Schedules -/

namespace Scene

/-- Every handler asks for what belongs to the point where it waits, and a shutdown has closed the coordinator. -/
structure Asking (shelf : Shelf) (s : Scene) : Prop where
  kept : s.coordinator.shelf = shelf
  asks : ∀ h ∈ s.handlers, Calls (Point.Asks shelf s.coordinator.closed) h.status
  shut : ∀ h ∈ s.handlers, h.request.closes = true → s.coordinator.closed = true

theorem asking_start (shelf : Shelf) (visible : Bool) : (start shelf visible).Asking shelf :=
  ⟨rfl, by simp [start], by simp [start]⟩

theorem asking_shift [Host] {shelf : Shelf} {s s' : Scene} {m : Move} (hs : Shift s m s') (h : s.Asking shelf) :
    s'.Asking shelf := by
  obtain ⟨rfl, hasks, hshut⟩ := h
  cases hs with
  | idle => exact ⟨rfl, hasks, hshut⟩
  | begin r =>
    have hp := proper_begin s.coordinator r
    refine ⟨hp.kept, fun h hh call pt hw => ?_, fun h hh hr => ?_⟩
    · rw [show (s.coordinator.begin r).coordinator.closed = _ from hp.closed]
      rcases List.mem_append.1 hh with hh | hh
      · -- a handler that was there before may find the coordinator closed now
        have := hasks h hh call pt hw
        cases r with
        | shutdown => exact (Bool.or_true _).symm ▸ this.shut
        | _ => exact (Bool.or_false _).symm ▸ this
      · obtain rfl := List.mem_singleton.1 hh
        exact hp.asks call pt hw
    · refine hp.closed.trans ?_
      rcases List.mem_append.1 hh with hh | hh
      · rw [hshut h hh hr, Bool.true_or]
      · obtain rfl := List.mem_singleton.1 hh
        rw [show r.closes = true from hr, Bool.or_true]
  | answer i a r d call pt hi =>
    have hmem := List.mem_of_getElem? hi
    have hp := proper_resume s.coordinator a (hasks _ hmem call pt rfl)
    refine ⟨hp.kept, fun h hh call' pt' hw => ?_, fun h hh hr => hp.closed.trans ?_⟩
    · rw [show (s.coordinator.resume a pt).coordinator.closed = _ from hp.closed]
      rcases List.mem_or_eq_of_mem_set hh with hh | rfl
      · exact hasks h hh call' pt' hw
      · exact hp.asks call' pt' hw
    · rcases List.mem_or_eq_of_mem_set hh with hh | rfl
      · exact hshut h hh hr
      · exact hshut _ hmem hr

theorem asking_run [Host] (shelf : Shelf) (visible : Bool) (moves : List Move) :
    ((start shelf visible).run moves).Asking shelf :=
  Schedule.run_induction (P := Asking shelf) asking_shift (asking_start shelf visible) moves

end Scene

end ChatRelay.Coordinator
