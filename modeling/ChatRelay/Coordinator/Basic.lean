import ChatRelay.Event.Inbound
import ChatRelay.Outbox
import ChatRelay.Relay
import ChatRelay.Snapshot.Restore
import ChatRelay.Snapshot.Save

/-!
# The coordinator between a surface and an agent

- `Coordinator`: the tabs of one surface with their sessions, the outbox of the surface, and whether the coordinator
  was shut down;
- `Coordinator.Request`: what the surface asks for, and `Coordinator.Outcome`, what comes of it;
- `Coordinator.Point`: where the handling of a request can wait. A point holds all that the handler still knows, and
  everything else is read anew from the coordinator when it goes on.
-/

namespace ChatRelay

/-- The state of one surface. -/
structure Coordinator where
  shelf : Shelf
  tabs : TabMap
  outbox : Outbox Outbound
  closed : Bool

namespace Coordinator

/-- A coordinator without tabs. -/
def new (shelf : Shelf) (visible : Bool) : Coordinator := ⟨shelf, [], .new visible, false⟩

/-- What a surface asks for. -/
inductive Request
  | inbound (message : Json)
  /-- The surface was hidden. -/
  | hidden
  /-- The surface was shown. -/
  | visible
  /-- The surface goes away for good. -/
  | shutdown

/-- What came of a request. -/
inductive Outcome
  | tabOpened (tab session : String) (saved : SaveResult)
  | relayCompleted (tab message : String) (chunksSent : Nat) (saved : SaveResult)
  | relayFailure (tab message error : String) (chunksSent : Nat)
  | missingMapping (tab message : String)
  | stateSaved (saved : SaveResult)
  | stateRestored (restored : Restoration)
  | invalidEvent (reason : String)
  /-- The surface was hidden, or went away. -/
  | saved (result : SaveResult)
  /-- The surface was shown. -/
  | shown

/-- What a save was begun for. -/
inductive Purpose
  | opening (tab session : String)
  | completing (p : Prompt) (chunksSent : Nat)
  | failing (p : Prompt) (cause : Fault) (chunksSent : Nat)
  | keeping
  | hiding
  | leaving

/-- Where the handling of a request waits. -/
inductive Point
  /-- For a new session. -/
  | creating (tab : String)
  /-- For the stream of a response. -/
  | relaying (p : Prompt) (pt : Relay.Point)
  /-- For the delivery of an event of a response. -/
  | passing (p : Prompt) (handover : Relay.Handover) (pt : Outbox.Point Outbound)
  /-- For the delivery of the failure of a response. -/
  | reporting (p : Prompt) (cause : Fault) (chunksSent : Nat) (pt : Outbox.Point Outbound)
  /-- In a save. -/
  | saving (purpose : Purpose) (pt : Save.Point)
  /-- In a restoration. -/
  | restoring (pt : Restore.Point)
  /-- For the delivery of the restored state. -/
  | announcing (restored : Restoration)
  /-- For a delivery of a replay. -/
  | replaying (pt : Outbox.Point Outbound)

/-- One step of the handling of a request: the coordinator after it, what there is to report, and how it goes on. -/
structure Turn where
  coordinator : Coordinator
  notices : List Notice
  next : Next Call Point Outcome

/-- A turn with more to report in front. -/
def Turn.report (t : Turn) (notices : List Notice) : Turn := { t with notices := notices ++ t.notices }

/-- A step that ends the handling. -/
def finish (c : Coordinator) (outcome : Outcome) : Turn := ⟨c, [], .finished (.ok outcome)⟩

/-- A step that ends the handling with a fault. -/
def fail (c : Coordinator) (f : Fault) : Turn := ⟨c, [], .finished (.error f)⟩

/-- A step that waits. -/
def await (c : Coordinator) (call : Call) (pt : Point) : Turn := ⟨c, [], .waiting call pt⟩

end Coordinator

/-- What the outbox of a surface reports. -/
def Outbox.Report.notice : Outbox.Report Outbound → Notice
  | .dropped e => .droppedAfterClose e.name
  | .buffered e n => .buffered e.name n
  | .replayed n => .replayed n

end ChatRelay
