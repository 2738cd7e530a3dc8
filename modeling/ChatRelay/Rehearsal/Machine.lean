import ChatRelay.Web.Site

/-!
# Machines

A machine is a state together with the routines that run on it. A rehearsal runs any machine; those of this module are
the parts of the program that have routines of their own.

- `Machine`: the state, the requests, the points at which a routine waits, and the results;
- `Machine.outbox`, `Machine.relay`, `Machine.archive`, `Machine.coordinator`, `Machine.surface`, `Machine.site`: the
  machines.
-/

namespace ChatRelay.Rehearsal

/-- One step of a routine: the state after it, what there is to report, the requests that it begins beside it, and how
it goes on. -/
structure MachineTurn (σ ρ π α : Type) where
  state : σ
  notices : List Notice
  forks : List ρ
  next : Next SurfaceCall π α

/-- A state and the routines that run on it. -/
structure Machine where
  State : Type
  Request : Type
  Point : Type
  Result : Type
  begin : State → Request → MachineTurn State Request Point Result
  resume : State → Except Fault SurfaceAnswer → Point → MachineTurn State Request Point Result
  /-- The state after its surface was hidden. -/
  hold : State → State

namespace Machine

/-- A call of a routine that knows no sockets. -/
def ask {π α : Type} : Next Call π α → Next SurfaceCall π α
  | .finished r => .finished r
  | .waiting call pt => .waiting (.ask call) pt

/-! ## The outbox alone -/

/-- What an outbox is asked for. -/
inductive OutboxRequest
  | send (e : Outbound)
  | release
  | flush

/-- What comes of it. -/
inductive OutboxResult
  | done
  /-- The outbox was closed, and some events are lost. -/
  | lost (count : Nat)

/-- A step of an outbox. -/
def ofOutbox (t : Outbox.Turn Outbound) :
    MachineTurn (Outbox Outbound) OutboxRequest (Outbox.Point Outbound) OutboxResult :=
  ⟨t.outbox, t.reports.map Outbox.Report.notice, [],
    match t.next with
    | .finished r => .finished (r.map fun _ => .done)
    | .waiting e pt => .waiting (.ask (.deliver e)) pt⟩

/-- An outbox alone. -/
def outbox : Machine where
  State := Outbox Outbound
  Request := OutboxRequest
  Point := Outbox.Point Outbound
  Result := OutboxResult
  begin b
    | .send e => ofOutbox (b.send e)
    | .release => ofOutbox b.release
    | .flush => ofOutbox b.flush
  resume b answer pt := ofOutbox (b.resume pt (answer.map fun _ => ()))
  hold := Outbox.hold

/-! ## The relay alone -/

/-- Where a relay waits whose events are delivered at once. -/
inductive RelayPoint
  | stream (p : Prompt) (pt : Relay.Point)
  | delivery (p : Prompt) (handover : Relay.Handover)

/-- A step of a relay that handed nothing over. -/
def ofRelayNext (p : Prompt) (next : Next Call Relay.Point Nat) : MachineTurn Unit Prompt RelayPoint Nat :=
  match next with
  | .finished (.ok n) => ⟨(), [.relayFinished p.message p.tab n], [], .finished (.ok n)⟩
  | .finished r => ⟨(), [], [], .finished r⟩
  | .waiting call pt => ⟨(), [], [], .waiting (.ask call) (.stream p pt)⟩

/-- A step of a relay. -/
def ofRelayStep (p : Prompt) : Relay.Step → MachineTurn Unit Prompt RelayPoint Nat
  | .pass e handover => ⟨(), [], [], .waiting (.ask (.deliver e)) (.delivery p handover)⟩
  | .next next => ofRelayNext p next

/-- A relay alone, whose result is the number of chunks. -/
def relay : Machine where
  State := Unit
  Request := Prompt
  Point := RelayPoint
  Result := Nat
  begin _ p := ofRelayNext p (Relay.start p)
  resume _ answer
    | .stream p pt => ofRelayStep p (Relay.resume p pt (answer.map SurfaceAnswer.toAnswer))
    | .delivery p handover => ofRelayNext p (Relay.passed handover (answer.map fun _ => ()))
  hold s := s

/-! ## Snapshots alone -/

/-- The tabs whose sessions are saved and restored. -/
structure Archive where
  shelf : Shelf
  tabs : TabMap

/-- What is asked of an archive. -/
inductive ArchiveRequest
  | save (uiState : Option Json)
  | restore
  /-- The stored value as it is. -/
  | inspect

/-- Where an archive waits. -/
inductive ArchivePoint
  | saving (pt : Save.Point)
  | restoring (pt : Restore.Point)
  | inspecting

/-- What comes of it. -/
inductive ArchiveResult
  | saved (r : SaveResult)
  | restored (r : Restoration)
  | found (v : Json)

/-- A routine's way on with its result and its point renamed. -/
def rename {κ π π' α α' : Type} (onResult : α → α') (onPoint : π → π') : Next κ π α → Next κ π' α'
  | .finished r => .finished (r.map onResult)
  | .waiting call pt => .waiting call (onPoint pt)

/-- A step of a save. -/
def ofSave (a : Archive) (t : Save.Turn) : MachineTurn Archive ArchiveRequest ArchivePoint ArchiveResult :=
  ⟨a, t.notices, [], ask (rename .saved .saving t.next)⟩

/-- A step of a restoration. -/
def ofRestore (a : Archive) (t : Restore.Turn) : MachineTurn Archive ArchiveRequest ArchivePoint ArchiveResult :=
  ⟨{ a with tabs := t.tabs }, t.notices, [], ask (rename .restored .restoring t.next)⟩

/-- Snapshots alone. -/
def archive : Machine where
  State := Archive
  Request := ArchiveRequest
  Point := ArchivePoint
  Result := ArchiveResult
  begin a
    | .save ui => ofSave a (Save.start a.shelf a.tabs ui)
    | .restore => ofRestore a (Restore.start a.shelf a.tabs)
    | .inspect => ⟨a, [], [], .waiting (.ask (.getValue a.shelf.key)) .inspecting⟩
  resume a answer
    | .saving pt => ofSave a (Save.resume a.shelf a.tabs pt (answer.map SurfaceAnswer.toAnswer))
    | .restoring pt => ofRestore a (Restore.resume a.shelf a.tabs pt (answer.map SurfaceAnswer.toAnswer))
    | .inspecting => ⟨a, [], [], .finished (answer.map fun r => .found r.toAnswer.toValue)⟩
  hold a := a

/-! ## The coordinator and the surface -/

/-- A step of a coordinator. -/
def ofCoordinator (t : Coordinator.Turn) :
    MachineTurn Coordinator Coordinator.Request Coordinator.Point Coordinator.Outcome :=
  ⟨t.coordinator, t.notices, [], ask t.next⟩

/-- The coordinator. -/
def coordinator [Host] : Machine where
  State := Coordinator
  Request := Coordinator.Request
  Point := Coordinator.Point
  Result := Coordinator.Outcome
  begin c r := ofCoordinator (c.begin r)
  resume c answer pt := ofCoordinator (c.resume (answer.map SurfaceAnswer.toAnswer) pt)
  hold c := { c with outbox := c.outbox.hold }

/-- A surface whose coordinator holds its events back. -/
def holdSurface (s : Surface) : Surface :=
  { s with coordinator := { s.coordinator with outbox := s.coordinator.outbox.hold } }

/-- A step of a surface. -/
def ofSurface (t : Surface.Turn) :
    MachineTurn Surface Surface.Request Surface.Point (Option Coordinator.Outcome) :=
  ⟨t.surface, t.notices, [], t.next⟩

/-- A surface in a web page. -/
def surface [Host] : Machine where
  State := Surface
  Request := Surface.Request
  Point := Surface.Point
  Result := Option Coordinator.Outcome
  begin s r := ofSurface (s.begin r)
  resume s answer pt := ofSurface (s.resume answer pt)
  hold := holdSurface

/-- A step of a site. The messages that it dispatches are requests of their own. -/
def ofSite (t : Site.Turn) : MachineTurn Site Site.Request Site.Point Site.Result :=
  ⟨t.site, t.notices, t.messages.map .inbound, t.next⟩

/-- A site. -/
def site [Host] : Machine where
  State := Site
  Request := Site.Request
  Point := Site.Point
  Result := Site.Result
  begin s r := ofSite (s.begin r)
  resume s answer pt := ofSite (s.resume answer pt)
  hold s := { s with surface := holdSurface s.surface }

end Machine

end ChatRelay.Rehearsal
