import ChatRelay.Proofs.Coordinator.Calls

/-!
# Handlers stay with their requests

A handler goes from point to point, and the point tells what it was begun for: the tab that is being opened, the prompt
that is being answered, the purpose of a save.

- `Point.Serves`: the points where the handler of a request can wait (`serves_begin`, `serves_resume`);
- `Scene.serving_run`: so it is with every handler after every schedule;
- `Rebinding`: all that the tabs can become when a handler goes on (`resume_rebinding`); the begin of a request leaves
  them alone (`tabs_begin`).
-/

namespace ChatRelay.Coordinator

/-! ## What a point belongs to -/

/-- The request is a message that asks for something. -/
def Request.Asks (r : Request) (event : Inbound) : Prop := ∃ m, r = .inbound m ∧ Inbound.ofJson m = .ok event

/-- A message asks for one thing. -/
theorem Request.Asks.unique {r : Request} {e e' : Inbound} (h : r.Asks e) (h' : r.Asks e') : e = e' := by
  obtain ⟨m, rfl, hm⟩ := h
  obtain ⟨m', hr, hm'⟩ := h'
  obtain rfl : m = m' := Request.inbound.inj hr
  exact Except.ok.inj (hm.symm.trans hm')

/-- The message that opens a tab. -/
def newTabMessage (tab : String) : Json := .obj [("type", .str "new-tab"), ("tabId", .str tab)]

/-- The message that prompts a tab. -/
def promptMessage (tab message text : String) : Json :=
  .obj [("type", .str "prompt"), ("tabId", .str tab), ("messageId", .str message), ("prompt", .str text)]

/-- The message that hands over a state of the surface. -/
def saveStateMessage (state : Json) : Json := .obj [("type", .str "save-state"), ("state", state)]

/-- The message that asks for the saved state. -/
def savedStateMessage : Json := .obj [("type", .str "request-saved-state")]

/-- The request is the one that a prompt on its way came with. -/
def Request.AsksPrompt (r : Request) (p : Prompt) : Prop := r.Asks (.prompt p.tab p.message p.text)

/-- The requests whose handlers save for a purpose. -/
def Purpose.Serves : Purpose → Request → Prop
  | .opening tab _, r => r.Asks (.newTab tab)
  | .completing p _, r => r.AsksPrompt p
  | .failing p _ _, r => r.AsksPrompt p
  | .keeping, r => ∃ state, r.Asks (.saveState state)
  | .hiding, r => r = .hidden
  | .leaving, r => r = .shutdown

/-- The requests whose handlers can wait at a point. -/
def Point.Serves : Point → Request → Prop
  | .creating tab, r => r.Asks (.newTab tab)
  | .relaying p _, r => r.AsksPrompt p
  | .passing p _ _, r => r.AsksPrompt p
  | .reporting p _ _ _, r => r.AsksPrompt p
  | .saving purpose _, r => purpose.Serves r
  | .restoring _, r => r.Asks .requestSavedState
  | .announcing _, r => r.Asks .requestSavedState
  | .replaying _, r => r = .visible

/-- A turn that ends the handler of a request or waits where it can wait. -/
def Turn.Serves (r : Request) (t : Turn) : Prop := Calls (fun pt _ => pt.Serves r) t.next

section

variable {r : Request} {c : Coordinator}

theorem Turn.Serves.report {t : Turn} (h : t.Serves r) (notices : List Notice) : (t.report notices).Serves r := h

theorem serves_finish (outcome : Outcome) : (finish c outcome).Serves r := calls_finished _

theorem serves_fail (f : Fault) : (fail c f).Serves r := calls_finished _

theorem serves_await {call : Call} (pt : Point) (h : pt.Serves r) : (await c call pt).Serves r := calls_waiting h

theorem serves_conclude (purpose : Purpose) (saved : SaveResult) : (conclude c purpose saved).Serves r := by
  cases purpose <;> exact calls_finished _

theorem serves_afterSave (purpose : Purpose) (h : purpose.Serves r) (t : Save.Turn) :
    (afterSave c purpose t).Serves r := by
  unfold afterSave
  rcases t.next with (f | saved) | ⟨call, pt⟩
  · exact (serves_fail f).report _
  · exact (serves_conclude purpose saved).report _
  · exact (serves_await (.saving purpose pt) h).report _

theorem serves_persist (purpose : Purpose) (h : purpose.Serves r) (uiState : Option Json) :
    (persist c purpose uiState).Serves r := by
  unfold persist
  split
  · exact serves_conclude _ _
  · exact serves_afterSave _ h _

theorem serves_afterReport {p : Prompt} (h : r.AsksPrompt p) (cause : Fault) (n : Nat) (t : Outbox.Turn Outbound) :
    (afterReport c p cause n t).Serves r := by
  unfold afterReport
  refine Turn.Serves.report ?_ _
  rcases t.next with (f | _) | ⟨e, pt⟩
  · exact serves_fail f
  · exact serves_persist (.failing p cause n) h _
  · exact serves_await (.reporting p cause n pt) h

theorem serves_afterRelay {p : Prompt} (h : r.AsksPrompt p) (next : Next Call Relay.Point Nat) :
    (afterRelay c p next).Serves r := by
  unfold afterRelay
  split
  · next n => exact (serves_persist (.completing p n) h _).report _
  · exact (serves_afterReport h _ _ _).report _
  · exact serves_fail _
  · next call pt => exact serves_await (.relaying p pt) h

theorem serves_afterPass {p : Prompt} (h : r.AsksPrompt p) (handover : Relay.Handover) (t : Outbox.Turn Outbound) :
    (afterPass c p handover t).Serves r := by
  unfold afterPass
  refine Turn.Serves.report ?_ _
  rcases t.next with result | ⟨e, pt⟩
  · exact serves_afterRelay h _
  · exact serves_await (.passing p handover pt) h

theorem serves_afterStep {p : Prompt} (h : r.AsksPrompt p) (step : Relay.Step) : (afterStep c p step).Serves r := by
  cases step with
  | pass event handover => exact serves_afterPass h handover _
  | next next => exact serves_afterRelay h next

theorem serves_afterRestore (h : r.Asks .requestSavedState) (t : Restore.Turn) : (afterRestore c t).Serves r := by
  unfold afterRestore
  refine Turn.Serves.report ?_ _
  rcases t.next with (f | restored) | ⟨call, pt⟩
  · exact serves_fail f
  · exact serves_await (.announcing restored) h
  · exact serves_await (.restoring pt) h

theorem serves_afterReplay (h : r = .visible) (t : Outbox.Turn Outbound) : (afterReplay c t).Serves r := by
  unfold afterReplay
  refine Turn.Serves.report ?_ _
  rcases t.next with (f | _) | ⟨e, pt⟩
  · exact serves_fail f
  · exact serves_finish _
  · exact serves_await (.replaying pt) h

theorem serves_beginEvent {event : Inbound} (h : r.Asks event) : (beginEvent c event).Serves r := by
  cases event with
  | newTab tab => exact serves_await (.creating tab) h
  | prompt tab message text =>
    simp only [beginEvent]
    split
    · exact serves_afterRelay (p := ⟨tab, message, _, text⟩) h _
    · exact (serves_finish _).report _
  | saveState state => exact serves_persist .keeping ⟨state, h⟩ _
  | requestSavedState => exact serves_afterRestore h _

/-- A request begins where its handler can wait. -/
theorem serves_begin [Host] (c : Coordinator) (r : Request) : (c.begin r).Serves r := by
  cases r with
  | inbound m =>
    simp only [begin, beginInbound]
    split
    · exact (serves_finish _).report _
    · split
      · next event hm => exact serves_beginEvent ⟨m, rfl, hm⟩
      · exact calls_drop c _
  | hidden => exact (serves_persist .hiding rfl _).report _
  | visible => exact (serves_afterReplay rfl _).report _
  | shutdown =>
    simp only [begin]
    split
    · exact serves_finish _
    · exact serves_afterSave .leaving rfl _

/-- A handler that goes on waits where it can wait. -/
theorem serves_resume (c : Coordinator) (a : Except Fault Answer) {pt : Point} (h : pt.Serves r) :
    (c.resume a pt).Serves r := by
  cases pt with
  | creating tab =>
    cases a with
    | ok a => exact (serves_persist (.opening tab a.toSession) h _).report _
    | error f => exact serves_fail f
  | relaying p pt => exact serves_afterStep h _
  | passing p handover pt => exact serves_afterPass h handover _
  | reporting p cause n pt => exact serves_afterReport h cause n _
  | saving purpose pt => exact serves_afterSave _ h _
  | restoring pt => exact serves_afterRestore h _
  | announcing restored => cases a <;> exact calls_finished _
  | replaying pt => exact serves_afterReplay h _

end

namespace Scene

/-- Every handler waits where the handler of its request can wait. -/
def Serving (s : Scene) : Prop := ∀ h ∈ s.handlers, Calls (fun pt _ => pt.Serves h.request) h.status

theorem serving_shift [Host] {s s' : Scene} {m : Move} (hs : Shift s m s') (h : s.Serving) : s'.Serving :=
  Schedule.forall_shift hs (fun r _ => serves_begin s.coordinator r)
    (fun a _ _ call pt hpt => serves_resume s.coordinator a (hpt call pt rfl)) h

theorem serving_run [Host] (shelf : Shelf) (visible : Bool) (moves : List Move) :
    ((start shelf visible).run moves).Serving :=
  Schedule.run_induction (P := Serving) serving_shift (by simp [Serving, start]) moves

end Scene

/-! ## The tabs after a turn -/

/-- All that the tabs can become when a handler that waits at a point is answered. -/
inductive Rebinding (tabs : TabMap) : Point → Except Fault Answer → TabMap → Prop
  /-- The session of a new tab has come. -/
  | opened (tab : String) (a : Answer) : Rebinding tabs (.creating tab) (.ok a) (tabs.bind tab a.toSession)
  /-- A stored session was resumed. -/
  | revived (p : Restore.Progress) (tab session : String) (rest : List (String × Json)) (a : Answer) :
      Rebinding tabs (.restoring (.resuming p tab session rest)) (.ok a) (tabs.bind tab session)
  /-- The last save has come to its end. -/
  | forgotten (pt : Save.Point) (a : Except Fault Answer) : Rebinding tabs (.saving .leaving pt) a []
  | kept (pt : Point) (a : Except Fault Answer) : (∀ tab b, pt = .creating tab → a ≠ .ok b) →
      (∀ p tab session rest b, pt = .restoring (.resuming p tab session rest) → a ≠ .ok b) → Rebinding tabs pt a tabs

section

variable {c : Coordinator}

theorem tabs_conclude {purpose : Purpose} (h : purpose ≠ .leaving) (saved : SaveResult) :
    (conclude c purpose saved).coordinator.tabs = c.tabs := by
  cases purpose with
  | leaving => exact absurd rfl h
  | _ => rfl

theorem tabs_afterSave {purpose : Purpose} (h : purpose ≠ .leaving) (t : Save.Turn) :
    (afterSave c purpose t).coordinator.tabs = c.tabs := by
  unfold afterSave
  rcases t.next with (f | saved) | ⟨call, pt⟩
  · rfl
  · exact tabs_conclude h saved
  · rfl

/-- A save for the last time leaves the tabs or forgets them. -/
theorem tabs_afterSave_leaving (t : Save.Turn) :
    (afterSave c .leaving t).coordinator.tabs = c.tabs ∨ (afterSave c .leaving t).coordinator.tabs = [] := by
  unfold afterSave
  rcases t.next with (f | saved) | ⟨call, pt⟩
  · exact .inl rfl
  · exact .inr rfl
  · exact .inl rfl

theorem tabs_persist {purpose : Purpose} (h : purpose ≠ .leaving) (uiState : Option Json) :
    (persist c purpose uiState).coordinator.tabs = c.tabs := by
  unfold persist
  split
  · exact tabs_conclude h _
  · exact tabs_afterSave h _

theorem tabs_afterReport (p : Prompt) (cause : Fault) (n : Nat) (t : Outbox.Turn Outbound) :
    (afterReport c p cause n t).coordinator.tabs = c.tabs := by
  unfold afterReport
  rcases t.next with (f | _) | ⟨e, pt⟩
  · rfl
  · exact tabs_persist (c := { c with outbox := t.outbox }) (by simp) _
  · rfl

theorem tabs_afterRelay (p : Prompt) (next : Next Call Relay.Point Nat) :
    (afterRelay c p next).coordinator.tabs = c.tabs := by
  unfold afterRelay
  split
  · exact tabs_persist (by simp) _
  · exact tabs_afterReport _ _ _ _
  · rfl
  · rfl

theorem tabs_afterPass (p : Prompt) (handover : Relay.Handover) (t : Outbox.Turn Outbound) :
    (afterPass c p handover t).coordinator.tabs = c.tabs := by
  unfold afterPass
  rcases t.next with result | ⟨e, pt⟩
  · exact tabs_afterRelay (c := { c with outbox := t.outbox }) p _
  · rfl

theorem tabs_afterStep (p : Prompt) (step : Relay.Step) : (afterStep c p step).coordinator.tabs = c.tabs := by
  cases step with
  | pass event handover => exact tabs_afterPass p handover _
  | next next => exact tabs_afterRelay p next

theorem tabs_afterReplay (t : Outbox.Turn Outbound) : (afterReplay c t).coordinator.tabs = c.tabs := by
  unfold afterReplay
  rcases t.next with (f | _) | ⟨e, pt⟩ <;> rfl

theorem tabs_afterRestore (c : Coordinator) (t : Restore.Turn) : (afterRestore c t).coordinator.tabs = t.tabs := by
  unfold afterRestore
  rcases t.next with (f | restored) | ⟨call, pt⟩ <;> rfl

theorem tabs_advance (tabs : TabMap) (progress : Restore.Progress) (records : List (String × Json)) :
    (Restore.advance tabs progress records).tabs = tabs := by
  induction records generalizing progress with
  | nil => rfl
  | cons r rest ih =>
    obtain ⟨tab, record⟩ := r
    unfold Restore.advance
    split
    · exact ih _
    · split
      · exact ih _
      · rfl

theorem tabs_read (shelf : Shelf) (tabs : TabMap) (stored : Json) : (Restore.read shelf tabs stored).tabs = tabs := by
  unfold Restore.read
  split
  · dsimp only
    split
    · exact tabs_advance _ _ _
    · rfl
  · rfl
  · rfl

theorem tabs_beginEvent (event : Inbound) : (beginEvent c event).coordinator.tabs = c.tabs := by
  cases event with
  | newTab tab => rfl
  | prompt tab message text =>
    simp only [beginEvent]
    split
    · exact tabs_afterRelay _ _
    · rfl
  | saveState state => exact tabs_persist (by simp) _
  | requestSavedState => exact tabs_afterRestore _ _

/-- The begin of a request leaves the tabs alone. -/
theorem tabs_begin [Host] (c : Coordinator) (r : Request) : (c.begin r).coordinator.tabs = c.tabs := by
  cases r with
  | inbound m =>
    simp only [begin, beginInbound]
    split
    · rfl
    · split
      · exact tabs_beginEvent _
      · rw [drop_coordinator]
  | hidden => exact tabs_persist (c := { c with outbox := c.outbox.hold }) (by simp) _
  | visible => exact tabs_afterReplay _
  | shutdown =>
    simp only [begin]
    split
    · rfl
    · -- the last save begins with reading the stored snapshot
      rfl

/-- A handler that goes on does with the tabs what `Rebinding` says. -/
theorem resume_rebinding (c : Coordinator) (a : Except Fault Answer) (pt : Point) :
    Rebinding c.tabs pt a (c.resume a pt).coordinator.tabs := by
  have keep : ∀ {t : Turn}, t.coordinator.tabs = c.tabs → (∀ tab b, pt = .creating tab → a ≠ .ok b) →
      (∀ p tab session rest b, pt = .restoring (.resuming p tab session rest) → a ≠ .ok b) →
      Rebinding c.tabs pt a t.coordinator.tabs := fun ht h h' => ht ▸ .kept pt a h h'
  cases pt with
  | creating tab =>
    cases a with
    | ok a =>
      have ht : (c.resume (.ok a) (.creating tab)).coordinator.tabs = c.tabs.bind tab a.toSession :=
        tabs_persist (c := { c with tabs := c.tabs.bind tab a.toSession }) (by simp) _
      rw [ht]
      exact .opened tab a
    | error f => exact keep rfl (by simp) (by simp)
  | relaying p pt => exact keep (tabs_afterStep p _) (by simp) (by simp)
  | passing p handover pt => exact keep (tabs_afterPass p handover _) (by simp) (by simp)
  | reporting p cause n pt => exact keep (tabs_afterReport p cause n _) (by simp) (by simp)
  | saving purpose pt =>
    by_cases hp : purpose = .leaving
    · subst hp
      rcases tabs_afterSave_leaving (c := c) (Save.resume c.shelf c.tabs pt a) with ht | ht
      · exact keep ht (by simp) (by simp)
      · have hforgotten : (c.resume a (.saving .leaving pt)).coordinator.tabs = [] := ht
        rw [hforgotten]
        exact .forgotten pt a
    · exact keep (tabs_afterSave hp _) (by simp) (by simp)
  | restoring pt =>
    have ht : (c.resume a (.restoring pt)).coordinator.tabs = (Restore.resume c.shelf c.tabs pt a).tabs :=
      tabs_afterRestore _ _
    cases pt with
    | reading =>
      cases a with
      | ok a => exact keep (ht.trans (tabs_read _ _ _)) (by simp) (by simp)
      | error f => exact keep ht (by simp) (by simp)
    | discarding found => cases a <;> exact keep ht (by simp) (by simp)
    | resuming p tab session rest =>
      cases a with
      | ok a =>
        rw [ht.trans (tabs_advance _ _ _)]
        exact .revived p tab session rest a
      | error f => exact keep (ht.trans (tabs_advance _ _ _)) (by simp) (by simp)
  | announcing restored => cases a <;> exact keep rfl (by simp) (by simp)
  | replaying pt => exact keep (tabs_afterReplay _) (by simp) (by simp)

end

end ChatRelay.Coordinator
