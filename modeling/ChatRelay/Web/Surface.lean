import ChatRelay.Coordinator.Handle
import ChatRelay.Web.Call

/-!
# A surface in a web page

- `Surface`: a coordinator with the socket that its messages go to. While no page is connected, the coordinator counts
  as hidden;
- `Surface.begin`, `Surface.resume`: the handling of connections, of reports that the page is hidden or shown, and of
  messages. A message that cannot be sent is lost without a fault.
-/

namespace ChatRelay

/-- A surface in a web page. -/
structure Surface where
  socket : Option Socket
  coordinator : Coordinator

namespace Surface

/-- A surface without a page. The usual key stands in for an empty one. -/
def new (stateKey : String) : Surface :=
  ⟨none, .new ⟨if stateKey.isEmpty then Shelf.defaultKey else stateKey, Shelf.defaultVersion⟩ false⟩

/-- What happens to a surface. -/
inductive Request
  | attach (socket : Socket)
  | detach (socket : Socket)
  | setVisible (visible : Bool)
  | inbound (message : Json)
  | shutdown

/-- What a request of the coordinator was begun for. -/
inductive Purpose
  | showing
  | handling
  /-- The page is gone when the request has been handled. -/
  | leaving

/-- Where the handling waits, with where the coordinator waits. -/
inductive Point
  | asking (purpose : Purpose) (pt : Coordinator.Point)
  | posting (purpose : Purpose) (pt : Coordinator.Point)

/-- One step of the handling. The result is that of a message. -/
structure Turn where
  surface : Surface
  notices : List Notice
  next : Next SurfaceCall Point (Option Coordinator.Outcome)

/-- A step that ends the handling. -/
def finish (s : Surface) : Turn := ⟨s, [], .finished (.ok none)⟩

/-- A turn with more to report in front. -/
def Turn.report (t : Turn) (notices : List Notice) : Turn := { t with notices := notices ++ t.notices }

/-- The end of a request that the coordinator has handled. -/
def conclude (s : Surface) (outcome : Coordinator.Outcome) : Purpose → Turn
  | .showing => finish s
  | .handling => ⟨s, [], .finished (.ok (some outcome))⟩
  | .leaving => finish { s with socket := none }

/-- Sends an event to the page. -/
def send (s : Surface) (e : Outbound) (purpose : Purpose) (pt : Coordinator.Point) : Turn :=
  match s.socket with
  | some socket => ⟨s, [], .waiting (.post socket e.toJson) (.posting purpose pt)⟩
  | none => ⟨s, [.noSocket e.type], .waiting .proceed (.posting purpose pt)⟩

/-- Goes on after a step of the coordinator. -/
def after (s : Surface) (purpose : Purpose) (t : Coordinator.Turn) : Turn :=
  let s := { s with coordinator := t.coordinator }
  let turn :=
    match t.next with
    | .finished (.ok outcome) => conclude s outcome purpose
    | .finished (.error f) => ⟨s, [], .finished (.error f)⟩
    | .waiting (.deliver e) pt => send s e purpose pt
    | .waiting call pt => ⟨s, [], .waiting (.ask call) (.asking purpose pt)⟩
  turn.report t.notices

/-- Begins a request of the coordinator. -/
def ask [Host] (s : Surface) (purpose : Purpose) (r : Coordinator.Request) : Turn := after s purpose
    (s.coordinator.begin r)

/-- Whether a page other than one is connected. -/
def hasOther (s : Surface) (socket : Socket) : Bool :=
  match s.socket with
  | some attached => attached ≠ socket
  | none => false

/-- The first step of a request. -/
def begin [Host] (s : Surface) : Request → Turn
  | .attach socket =>
    let t := ask { s with socket := some socket } .showing .visible
    t.report (if s.hasOther socket then [.socketReplaced] else [])
  | .detach socket => if s.socket = some socket then ask s .leaving .hidden else finish s
  | .setVisible visible =>
    if s.socket.isNone then finish s else ask s .showing (if visible then .visible else .hidden)
  | .inbound message => ask s .handling (.inbound message)
  | .shutdown => ask s .leaving .shutdown

/-- The next step, with the answer that was waited for. -/
def resume (s : Surface) (answer : Except Fault SurfaceAnswer) : Point → Turn
  | .asking purpose pt => after s purpose (s.coordinator.resume (answer.map SurfaceAnswer.toAnswer) pt)
  | .posting purpose pt =>
    (after s purpose (s.coordinator.resume (.ok .done) pt)).report
      (match answer with
        | .ok _ => []
        | .error _ => [.sendFailed])

end Surface

end ChatRelay
