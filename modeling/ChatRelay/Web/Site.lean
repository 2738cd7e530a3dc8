import ChatRelay.Agent.Load
import ChatRelay.Json.Encoding
import ChatRelay.Preferences.Basic
import ChatRelay.Web.Description
import ChatRelay.Web.Response
import ChatRelay.Web.Surface

/-!
# The site

- `Site`: a surface with the preferences that it was made from;
- `Site.begin`, `Site.resume`: the handling of requests and of connections. A connection is served until its client
  leaves or something fails, and is then detached from the surface; its messages are handled beside it.
-/

namespace ChatRelay

/-- A surface and the preferences that it was made from. -/
structure Site where
  surface : Surface
  prefs : Preferences

namespace Site

/-- What happens to a site. -/
inductive Request
  | http (method path : String) (body : String)
  | connect (socket : Socket)
  | inbound (message : Json)
  /-- The site is taken down. -/
  | stop

/-- What comes of it. -/
inductive Result
  | response (r : Response)
  /-- The handling of a request failed, which the client is told with status 500. -/
  | crashed (f : Fault)
  | ended

/-- What a request of the surface was begun for. -/
inductive Purpose
  | attaching (socket : Socket)
  | showing (socket : Socket)
  | detaching
  | handling
  | stopping

/-- Where the handling waits. -/
inductive Point
  | surface (purpose : Purpose) (pt : Surface.Point)
  | accepting (socket : Socket)
  | receiving (socket : Socket)
  | answering (socket : Socket)
  | inspecting
  | choosing (name : String)

/-- One step of the handling, with the messages that are to be handled beside it. -/
structure Turn where
  site : Site
  notices : List Notice
  messages : List Json
  next : Next SurfaceCall Point Result

variable [Host]

/-- A step that waits. -/
def await (s : Site) (call : SurfaceCall) (pt : Point) : Turn := ⟨s, [], [], .waiting call pt⟩

/-- A step that ends the handling. -/
def finish (s : Site) (r : Except Fault Result) : Turn := ⟨s, [], [], .finished r⟩

/-- A step that ends the handling of a request. -/
def respond (s : Site) (r : Response) : Turn := s.finish (.ok (.response r))

/-- A step that ends the handling of a request that failed. -/
def crash (s : Site) (f : Fault) : Turn := s.finish (.ok (.crashed f))

/-- A turn with more to report in front. -/
def Turn.report (t : Turn) (notices : List Notice) : Turn := { t with notices := notices ++ t.notices }

/-! ## Connections -/

/-- Waits for the next frame of a connection. -/
def listen (s : Site) (socket : Socket) : Turn := s.await (.receive socket) (.receiving socket)

/-- Takes over a step of the surface, with what follows its end. -/
def ofSurface (s : Site) (purpose : Purpose) (t : Surface.Turn)
    (onEnd : Site → Except Fault (Option Coordinator.Outcome) → Turn) : Turn :=
  let s := { s with surface := t.surface }
  (match t.next with
    | .finished r => onEnd s r
    | .waiting call pt => s.await call (.surface purpose pt)).report t.notices

/-- The end of a handler, or its fault. -/
def conclude (s : Site) (r : Except Fault (Option Coordinator.Outcome)) : Turn := s.finish (r.map fun _ => .ended)

/-- Detaches a connection from the surface, which ends the handler of the connection. -/
def detach (s : Site) (socket : Socket) : Turn :=
  s.ofSurface .detaching (s.surface.begin (.detach socket)) conclude

/-- Ends a connection after something failed. -/
def breakOff (s : Site) (socket : Socket) : Turn := (s.detach socket).report [.socketError]

/-- Ends a connection whose client has left. -/
def leave (s : Site) (socket : Socket) : Turn := (s.detach socket).report [.clientDisconnected]

/-- Goes on after a request of the surface has ended. -/
def afterSurface (s : Site) (r : Except Fault (Option Coordinator.Outcome)) : Purpose → Turn
  | .attaching socket => match r with
    | .ok _ => s.listen socket
    | .error f => s.finish (.error f)
  | .showing socket => match r with
    | .ok _ => s.listen socket
    | .error _ => s.breakOff socket
  | .detaching | .handling | .stopping => s.conclude r

/-- Begins a request of the surface. -/
def ask (s : Site) (purpose : Purpose) (r : Surface.Request) : Turn :=
  s.ofSurface purpose (s.surface.begin r) fun s r => s.afterSurface r purpose

/-- The reply to a sign of life. -/
def pong : Json := .obj [("type", .str "pong")]

/-- Handles a message of a connection. -/
def onMessage (s : Site) (socket : Socket) (message : Json) : Turn :=
  match message.get? "type" with
  | some (.str "ping") => s.await (.post socket pong) (.answering socket)
  | some (.str "visibility") =>
    s.ask (.showing socket) (.setVisible ((message.get? "visible").getD (.bool true)).truthy)
  | _ => { s.listen socket with messages := [message] }

/-- Handles a frame of a connection. -/
def onFrame (s : Site) (socket : Socket) : Frame → Turn
  | .text t => match Json.read t with
    | .ok message => s.onMessage socket message
    | .error _ => s.breakOff socket
  | .bytes => s.breakOff socket
  | .disconnect => s.leave socket

/-- Whether a fault says that the connection is gone. -/
def isLoss : Fault → Bool
  | .backend .connection _ => true
  | _ => false

/-! ## Requests -/

/-- Begins to choose an agent of a library for the next start. -/
def chooseAgent {φ ω : Type} (s : Site) (l : Library φ ω) (body : String) : Turn :=
  match Json.readBytes body.toUTF8.toList with
  | .error .malformed => s.respond .invalid
  | .error _ => s.respond (.detail 400 "There was an error parsing the body")
  | .ok v =>
    match v.get? "name" with
    | some (.str name) =>
      match l.load name [] with
      | .ok _ => s.await (.saveAgent name) (.choosing name)
      | .error (.agentLoad reason) => s.respond (.detail 400 reason)
      | .error f => s.crash f
    | _ => s.respond .invalid

mutual

/-- A value in which numbers that are not finite are null. -/
def finiteOnly : Json → Json
  | .float x => match x with
    | .finite _ _ => .float x
    | _ => .null
  | .arr items => .arr (finiteItems items)
  | .obj members => .obj (finiteMembers members)
  | v => v

/-- The items of an array with finite numbers only. -/
def finiteItems : List Json → List Json
  | [] => []
  | v :: rest => finiteOnly v :: finiteItems rest

/-- The members of an object with finite numbers only. -/
def finiteMembers : List (String × Json) → List (String × Json)
  | [] => []
  | (k, v) :: rest => (k, finiteOnly v) :: finiteMembers rest

end

/-- The response to the wrong method for a resource. -/
def refuseMethod : Resource → Response
  | .asset _ => .bare 405
  | _ => .detail 405 "Method Not Allowed"

/-- Begins to answer a request for a resource. -/
def serve (s : Site) (body : String) : Resource → Turn
  | .page | .manual => s.respond .page
  | .description => s.respond (.json 200 Description.document)
  | .asset found => s.respond (.bare (if found then 200 else 404))
  | .state => s.await (.ask (.getValue s.surface.coordinator.shelf.key)) .inspecting
  | .config => s.respond (.json 200 (finiteOnly (s.prefs.toJson (.float s.prefs.agent.chunkDelay))))
  | .agentChoice => s.chooseAgent Catalog.library body
  | .redirect => s.respond .moved
  | .nothing => s.respond (.detail 404 "Not Found")

/-- The first step of a request. -/
def begin (s : Site) : Request → Turn
  | .http method path body =>
    let r := Resource.ofPath path
    if r.allows method then s.serve body r else s.respond (refuseMethod r)
  | .connect socket => s.await (.accept socket) (.accepting socket)
  | .inbound message => s.ask .handling (.inbound message)
  | .stop => s.ask .stopping .shutdown

/-- The agent was written to the preferences, or could not be. -/
def chosen (s : Site) (name : String) (written : Bool) : Turn :=
  if written then
    (respond { s with prefs.agent.name := name }
      (.json 200 (.obj [("agent", .str name), ("restart_required", .bool true)]))).report [.agentSelected name]
  else s.respond (.detail 500 "could not write preferences")

/-- The next step, with the answer that was waited for. -/
def resume (s : Site) (answer : Except Fault SurfaceAnswer) : Point → Turn
  | .surface purpose pt =>
    s.ofSurface purpose (s.surface.resume answer pt) fun s r => s.afterSurface r purpose
  | .accepting socket => match answer with
    | .ok _ => s.ask (.attaching socket) (.attach socket)
    | .error f => s.finish (.error f)
  | .receiving socket => match answer with
    | .ok (.frame frame) => s.onFrame socket frame
    | _ => s.breakOff socket
  | .answering socket => match answer with
    | .ok _ => s.listen socket
    | .error f => if isLoss f then s.leave socket else s.breakOff socket
  | .inspecting => match answer with
    | .ok a => s.respond (.json 200 (.obj [("state", finiteOnly a.toAnswer.toValue)]))
    | .error f => s.crash f
  | .choosing name => match answer with
    | .ok (.written ok) => s.chosen name ok
    | .ok _ => s.chosen name false
    | .error f => s.crash f

end Site

end ChatRelay
