import ChatRelay.Coordinator.Basic

/-!
# Handling requests

- `Coordinator.begin`: the first step of a request;
- `Coordinator.resume`: the next step, when the answer has come that the handler waited for.

Every handler that changes what a snapshot holds ends with a save, and a save that would begin after shutdown is
skipped. A response that breaks off is reported to the surface and is no fault of its handler; a fault of the store,
of a delivery or of a new session is, and so is that of a message whose type cannot be shown.
-/

namespace ChatRelay.Coordinator

/-! ## Saving -/

/-- The end of a handler whose save has come to its end. After the last save the outbox is closed and the tabs are
forgotten. -/
def conclude (c : Coordinator) (purpose : Purpose) (saved : SaveResult) : Turn :=
  match purpose with
  | .opening tab session => c.finish (.tabOpened tab session saved)
  | .completing p n => c.finish (.relayCompleted p.tab p.message n saved)
  | .failing p cause n => c.finish (.relayFailure p.tab p.message cause.text n)
  | .keeping => c.finish (.stateSaved saved)
  | .hiding => c.finish (.saved saved)
  | .leaving =>
    let (outbox, n) := c.outbox.close
    (finish { c with outbox := outbox, tabs := [] } (.saved saved)).report (if n = 0 then [] else [.undelivered n])

/-- Goes on after a step of a save. -/
def afterSave (c : Coordinator) (purpose : Purpose) (t : Save.Turn) : Turn :=
  match t.next with
  | .finished (.ok saved) => (conclude c purpose saved).report t.notices
  | .finished (.error f) => (fail c f).report t.notices
  | .waiting call pt => (await c call (.saving purpose pt)).report t.notices

/-- Begins a save, whatever the state of the coordinator. -/
def save (c : Coordinator) (purpose : Purpose) (uiState : Option Json) : Turn :=
  afterSave c purpose (Save.start c.shelf c.tabs uiState)

/-- Begins a save unless the coordinator was shut down. -/
def persist (c : Coordinator) (purpose : Purpose) (uiState : Option Json) : Turn :=
  if c.closed then conclude c purpose .nothing else save c purpose uiState

/-! ## Relaying -/

/-- Goes on after a step of the sending of a failure. -/
def afterReport (c : Coordinator) (p : Prompt) (cause : Fault) (chunksSent : Nat) (t : Outbox.Turn Outbound) : Turn :=
  let c := { c with outbox := t.outbox }
  let turn :=
    match t.next with
    | .finished (.ok ()) => persist c (.failing p cause chunksSent) none
    | .finished (.error f) => fail c f
    | .waiting event pt => await c (.deliver event) (.reporting p cause chunksSent pt)
  turn.report (t.reports.map Outbox.Report.notice)

/-- Goes on after a step of a relay that handed nothing over. -/
def afterRelay (c : Coordinator) (p : Prompt) (next : Next Call Relay.Point Nat) : Turn :=
  match next with
  | .finished (.ok n) => (persist c (.completing p n) none).report [.relayFinished p.message p.tab n]
  | .finished (.error (.relay _ _ n cause)) =>
    (afterReport c p cause n (c.outbox.send (.failed p.tab p.message cause.text))).report [.responseFailed p.tab]
  | .finished (.error f) => fail c f
  | .waiting call pt => await c call (.relaying p pt)

/-- Goes on after a step of the sending of an event of a response. -/
def afterPass (c : Coordinator) (p : Prompt) (handover : Relay.Handover) (t : Outbox.Turn Outbound) : Turn :=
  let c := { c with outbox := t.outbox }
  let turn :=
    match t.next with
    | .finished r => afterRelay c p (Relay.passed handover r)
    | .waiting event pt => await c (.deliver event) (.passing p handover pt)
  turn.report (t.reports.map Outbox.Report.notice)

/-- Goes on after a step of a relay. -/
def afterStep (c : Coordinator) (p : Prompt) : Relay.Step → Turn
  | .pass event handover => afterPass c p handover (c.outbox.send event)
  | .next next => afterRelay c p next

/-! ## Restoring and replaying -/

/-- Goes on after a step of a restoration. The restored state is delivered past the outbox: a surface only asks for it
while it starts. -/
def afterRestore (c : Coordinator) (t : Restore.Turn) : Turn :=
  let c := { c with tabs := t.tabs }
  let turn :=
    match t.next with
    | .finished (.ok restored) => await c (.deliver (.restoreState restored.uiState)) (.announcing restored)
    | .finished (.error f) => fail c f
    | .waiting call pt => await c call (.restoring pt)
  turn.report t.notices

/-- Goes on after a step of a replay. -/
def afterReplay (c : Coordinator) (t : Outbox.Turn Outbound) : Turn :=
  let c := { c with outbox := t.outbox }
  let turn :=
    match t.next with
    | .finished (.ok ()) => finish c .shown
    | .finished (.error f) => fail c f
    | .waiting event pt => await c (.deliver event) (.replaying pt)
  turn.report (t.reports.map Outbox.Report.notice)

/-! ## Requests -/

/-- Begins to handle a well-formed message. -/
def beginEvent (c : Coordinator) : Inbound → Turn
  | .newTab tab => await c .createSession (.creating tab)
  | .prompt tab message text =>
    match c.tabs.session? tab with
    | some session =>
      let p : Prompt := ⟨tab, message, session, text⟩
      afterRelay c p (Relay.start p)
    | none => (finish c (.missingMapping tab message)).report [.promptDropped tab message]
  | .saveState state => persist c .keeping (some state)
  | .requestSavedState => afterRestore c (Restore.start c.shelf c.tabs)

/-- Drops a message that makes no request, unless the reason cannot be told. -/
def drop [Host] (c : Coordinator) (refusal : Inbound.Refusal) : Turn :=
  match refusal.text with
  | .ok reason => (finish c (.invalidEvent reason)).report [.inboundDropped reason]
  | .error f => fail c f

/-- A message that is dropped ends its handler with the reason, or with the fault that keeps the reason from being
told. -/
theorem drop_cases [Host] (c : Coordinator) (refusal : Inbound.Refusal) :
    (∃ reason, c.drop refusal = (finish c (.invalidEvent reason)).report [.inboundDropped reason]) ∨
      ∃ f, c.drop refusal = fail c f := by
  unfold drop
  split
  · exact .inl ⟨_, rfl⟩
  · exact .inr ⟨_, rfl⟩

@[simp]
theorem drop_coordinator [Host] (c : Coordinator) (refusal : Inbound.Refusal) : (c.drop refusal).coordinator = c := by
  obtain ⟨reason, hd⟩ | ⟨f, hd⟩ := drop_cases c refusal <;> rw [hd] <;> rfl

/-- A message that is dropped leaves nothing to wait for. -/
theorem drop_ne_waiting [Host] (c : Coordinator) (refusal : Inbound.Refusal) (call : Call) (pt : Point) :
    (c.drop refusal).next ≠ .waiting call pt := by
  obtain ⟨reason, hd⟩ | ⟨f, hd⟩ := drop_cases c refusal <;> rw [hd] <;> rintro ⟨⟩

/-- Begins to handle a message. A message that makes no request, or comes after shutdown, is dropped. -/
def beginInbound [Host] (c : Coordinator) (message : Json) : Turn :=
  if c.closed then (finish c (.invalidEvent "coordinator is shut down")).report [.inboundAfterShutdown]
  else
    match Inbound.ofJson message with
    | .ok event => beginEvent c event
    | .error refusal => drop c refusal

/-- The first step of a request. -/
def begin [Host] (c : Coordinator) : Request → Turn
  | .inbound message => beginInbound c message
  | .hidden => (persist { c with outbox := c.outbox.hold } .hiding none).report [.surfaceHidden]
  | .visible =>
    let n := c.outbox.queue.length
    (afterReplay c c.outbox.release).report (if n = 0 then [] else [.replaying n])
  | .shutdown => if c.closed then finish c (.saved .nothing) else save { c with closed := true } .leaving none

/-- The session of a new tab has come. -/
def openTab (c : Coordinator) (tab session : String) : Turn :=
  (persist { c with tabs := c.tabs.bind tab session } (.opening tab session) none).report
    (c.tabs.bindNotices tab session ++ [.sessionCreated session tab])

/-- The next step of a handler, with the answer it waited for. -/
def resume (c : Coordinator) (answer : Except Fault Answer) : Point → Turn
  | .creating tab =>
    match answer with
    | .ok a => openTab c tab a.toSession
    | .error f => fail c f
  | .relaying p pt => afterStep c p (Relay.resume p pt answer)
  | .passing p handover pt => afterPass c p handover (c.outbox.resume pt (answer.map fun _ => ()))
  | .reporting p cause n pt => afterReport c p cause n (c.outbox.resume pt (answer.map fun _ => ()))
  | .saving purpose pt => afterSave c purpose (Save.resume c.shelf c.tabs pt answer)
  | .restoring pt => afterRestore c (Restore.resume c.shelf c.tabs pt answer)
  | .announcing restored =>
    match answer with
    | .ok _ => finish c (.stateRestored restored)
    | .error f => fail c f
  | .replaying pt => afterReplay c (c.outbox.resume pt (answer.map fun _ => ()))

end ChatRelay.Coordinator
