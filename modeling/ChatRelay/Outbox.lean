import ChatRelay.Fault
import ChatRelay.Routine

/-!
# The outbox

Events for a surface that can be hidden. While the surface is visible an event is delivered at once; while it is
hidden, and behind a replay that has not come to its end, events queue up.

- `Outbox.send`, `Outbox.release`, `Outbox.flush`: the routines, which wait only for deliveries;
- `Outbox.hold`, `Outbox.close`: the changes that take effect at once;
- `Outbox.resume`: the end of a delivery. A failed delivery of a replay puts its event back in front and ends the
  replay; a failed direct delivery is the failure of its send.
-/

namespace ChatRelay

/-- The events kept back for a surface. -/
structure Outbox (ε : Type) where
  visible : Bool
  queue : List ε
  /-- A replay is running. -/
  draining : Bool
  closed : Bool

namespace Outbox

variable {ε : Type}

/-- An outbox without events. -/
def new (visible : Bool) : Outbox ε := ⟨visible, [], false, false⟩

/-- Where a routine waits for a delivery. -/
inductive Point (ε : Type)
  /-- The event was never queued. -/
  | direct (event : ε)
  /-- The event was taken from the queue by a replay that has delivered some events before. -/
  | replaying (event : ε) (count : Nat)

/-- What a routine has to report. -/
inductive Report (ε : Type)
  | dropped (event : ε)
  | buffered (event : ε) (queued : Nat)
  | replayed (count : Nat)

/-- One step of a routine: the outbox after it, what there is to report, and how it goes on. The call of a routine
is the event to deliver. -/
structure Turn (ε : Type) where
  outbox : Outbox ε
  reports : List (Report ε)
  next : Next ε (Point ε) Unit

/-- A step that ends the routine. -/
def finish (b : Outbox ε) (reports : List (Report ε)) : Turn ε := ⟨b, reports, .finished (.ok ())⟩

/-- The next event of a replay, or its end when the queue is empty or the surface was hidden. -/
def replay (b : Outbox ε) (count : Nat) : Turn ε :=
  match b.queue with
  | e :: rest =>
    if b.visible then ⟨{ b with queue := rest }, [], .waiting e (.replaying e count)⟩
    else finish { b with draining := false } [.replayed count]
  | [] => finish { b with draining := false } [.replayed count]

/-- Replays the queued events, unless there are none or a replay is running already. -/
def flush (b : Outbox ε) : Turn ε :=
  if b.draining || b.queue.isEmpty then finish b [] else replay { b with draining := true } 0

/-- Takes an event: delivers it, or queues it behind the events that are older. -/
def send (b : Outbox ε) (e : ε) : Turn ε :=
  if b.closed then finish b [.dropped e]
  else if b.visible && b.queue.isEmpty && !b.draining then ⟨b, [], .waiting e (.direct e)⟩
  else
    let b := { b with queue := b.queue ++ [e] }
    if !b.visible then finish b [.buffered e b.queue.length]
    else if b.draining then finish b []
    else flush b

/-- The surface was hidden: events queue up. -/
def hold (b : Outbox ε) : Outbox ε := { b with visible := false }

/-- The surface was shown: replays the queued events. -/
def release (b : Outbox ε) : Turn ε := flush { b with visible := true }

/-- Stops taking events, and forgets the queued ones. The number tells how many there were. -/
def close (b : Outbox ε) : Outbox ε × Nat :=
  ({ b with closed := true, visible := false, queue := [] }, b.queue.length)

/-- Goes on when the delivery that a routine waited for has ended. -/
def resume (b : Outbox ε) : Point ε → Except Fault Unit → Turn ε
  | .direct _, r => ⟨b, [], .finished r⟩
  | .replaying _ count, .ok () => replay b (count + 1)
  | .replaying e _, .error f => ⟨{ b with queue := e :: b.queue, draining := false }, [], .finished (.error f)⟩

end Outbox

end ChatRelay
