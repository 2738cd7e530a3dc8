import ChatRelay.Preferences.File
import ChatRelay.Rehearsal.Backend
import ChatRelay.Rehearsal.Machine
import ChatRelay.Store.KeyValue

/-!
# The stage of a rehearsal

A rehearsal runs the routines of a machine as tasks that take turns. A task goes on until it ends, waits for a gate or
a frame, or steps back; what comes of a call is worked out at once. Everything that happens is a function of the plans.

- `Task`, `Job`: a routine that waits, and what stands in the queue of those that can go on;
- `World`: the machines, their agents, the store, the plans, the sockets and the queue;
- `Trace`: what was seen since the last look.
-/

namespace ChatRelay.Rehearsal

/-- Something that was sent. -/
inductive Sent
  /-- Handed to the surface. -/
  | event (message : Json)
  /-- Sent over a socket. -/
  | posted (socket : String) (message : Json)
  /-- A connection was accepted. -/
  | accepted (socket : String)

/-- What was seen since the last look, in order. -/
structure Trace (α : Type) where
  sent : List Sent
  journal : List JournalEntry
  notices : List Notice
  finished : List (Nat × Except Fault α)

/-- Nothing was seen. -/
def Trace.empty {α : Type} : Trace α := ⟨[], [], [], []⟩

/-- What a task is known by. -/
structure Label where
  /-- The step that began it, if its end is to be seen. -/
  step : Option Nat
  /-- Whether it handles a message apart from the rest. -/
  dispatched : Bool

/-- What has to happen before a call does its work. -/
inductive Stage
  /-- The next cue of a hook. -/
  | hook (name : String)
  | wait (gate : String)
  | yield
  | fail (f : Fault)
  | write (entry : JournalEntry)

/-- A routine that waits for the answer to a call. -/
structure Task (M : Machine) where
  label : Label
  /-- The machine that it runs on. -/
  desk : Nat
  stream : Stream
  stages : List Stage
  /-- Whether the surface is hidden when the call has done its work. -/
  hides : Bool
  call : SurfaceCall
  point : M.Point

/-- What stands in the queue. -/
inductive Job (M : Machine)
  /-- A request that has not begun. -/
  | start (label : Label) (desk : Nat) (request : M.Request)
  | continue (task : Task M)
  /-- The end of a task, which is seen when its turn comes. -/
  | settle (label : Label) (result : Except Fault M.Result)

/-- What a task waits for. -/
inductive Obstacle
  | gate (name : String)
  | frame (socket : Socket)
deriving DecidableEq

/-- A machine with its agent. -/
structure Desk (M : Machine) where
  state : M.State
  backend : Backend

/-- What is known of a connection. -/
structure Client where
  inbox : List Frame
  /-- Whether the connection is over: it is known that the client has left, or a message was lost on the way. -/
  isOver : Bool

/-- The stage. The desk in use comes last. -/
structure World (M : Machine) where
  desks : List (Desk M)
  storage : Storage
  /-- The file that the name of the agent is written to. -/
  prefsPath : Path
  plans : Plans
  openGates : List String
  mint : Mint
  clients : List (Socket × Client)
  ready : List (Job M)
  blocked : List (Obstacle × Task M)
  trace : Trace M.Result

namespace World

variable [Host] {M : Machine}

/-! ## Looking and changing -/

/-- A desk by its place. -/
def desk? (w : World M) (n : Nat) : Option (Desk M) := w.desks[n]?

/-- The place of the desk in use. -/
def current (w : World M) : Nat := w.desks.length - 1

/-- The state of the desk in use. -/
def state? (w : World M) : Option M.State := w.desks.getLast?.map (·.state)

/-- Changes a desk. -/
def modifyDesk (w : World M) (n : Nat) (f : Desk M → Desk M) : World M := { w with desks := w.desks.modify n f }

/-- Changes the state of a desk. -/
def modifyState (w : World M) (n : Nat) (f : M.State → M.State) : World M :=
  w.modifyDesk n fun d => { d with state := f d.state }

/-- Adds notices to what was seen. -/
def report (w : World M) (notices : List Notice) : World M :=
  { w with trace := { w.trace with notices := w.trace.notices ++ notices } }

/-- Adds an entry to the journal of the understudies. -/
def write (w : World M) (entry : JournalEntry) : World M :=
  { w with trace := { w.trace with journal := w.trace.journal ++ [entry] } }

/-- Adds to what was sent. -/
def record (w : World M) (s : Sent) : World M := { w with trace := { w.trace with sent := w.trace.sent ++ [s] } }

/-- Puts a job at the end of the queue. -/
def enqueue (w : World M) (job : Job M) : World M := { w with ready := w.ready ++ [job] }

/-- Begins a request on the desk in use, at the end of the queue. -/
def begin (w : World M) (label : Label) (request : M.Request) : World M :=
  w.enqueue (.start label w.current request)

/-- Puts the tasks that wait for something into the queue. -/
def wake (w : World M) (o : Obstacle) : World M :=
  let (woken, blocked) := w.blocked.partition fun e => e.1 = o
  { w with blocked := blocked, ready := w.ready ++ woken.map fun e => .continue e.2 }

/-- Opens a gate for good. -/
def openGate (w : World M) (gate : String) : World M :=
  wake { w with openGates := gate :: w.openGates } (.gate gate)

/-! ## Calls -/

/-- What an agent does before it answers. -/
def agentStages (b : Backend) : Call → List Stage
  | .createSession => match b with
    | .echo _ => []
    | .understudy _ => [.hook "create"]
  | .readState session => match b with
    | .echo _ => []
    | .understudy _ => [.write (.reported session), .hook "state"]
  | .resumeSession session state => match b with
    | .echo _ => []
    | .understudy _ => [.write (.resumed session state), .hook "resume"]
  | _ => []

/-- The fault of a connection that is over. -/
def unusedConnection : Fault := .backend .runtime none

/-- Whether a connection is over. -/
def isOver (w : World M) (socket : Socket) : Bool := ((Assoc.get? socket w.clients).map (·.isOver)).getD false

/-- What has to happen before a call does its work. On a connection that is over nothing is begun. -/
def stagesOf (w : World M) (b : Backend) : SurfaceCall → List Stage
  | .ask (.getValue _) => [.hook "get"]
  | .ask (.updateValue _ _) => [.hook "update"]
  | .ask (.deleteValue _) => .hook "delete" :: if w.storage.deletesByUpdate then [.hook "update"] else []
  | .ask (.deliver _) => [.hook "deliver"]
  | .ask call => agentStages b call
  | .post socket _ => [if w.isOver socket then .fail unusedConnection else .hook socket.name]
  | .receive socket => if w.isOver socket then [.fail unusedConnection] else []
  | _ => []

/-- What comes of the work of a call. -/
inductive Done
  | answered (r : Except Fault SurfaceAnswer)
  /-- The call has to be worked on again after some stages. -/
  | again (stages : List Stage)
  /-- The next frame has not come yet. -/
  | awaiting (socket : Socket)

/-- An answer without content. -/
def Done.plain : Done := .answered (.ok (.answer .done))

/-- A plain answer or a fault. -/
def Done.ofUnit (r : Except Fault Unit) : Done := .answered (r.map fun _ => .answer .done)

/-- The stages of a cue. -/
def cueStages (c : Cue) : List Stage :=
  (match c.gate with | some g => [.wait g] | none => []) ++ (if c.yields then [.yield] else []) ++
    (match c.fault with | some f => [.fail f] | none => [])

/-- The agent makes a session. -/
def createSession (w : World M) (t : Task M) (b : Backend) : World M × Done :=
  let (session, mint) := w.mint.next
  let w := { w with mint := mint }
  let answer := Done.answered (.ok (.answer (.session session)))
  match b with
  | .echo e =>
    let (e, notices) := e.create session
    ((w.modifyDesk t.desk fun d => { d with backend := .echo e }).report notices, answer)
  | .understudy u =>
    let u := u.setState session (Understudy.turnState 0)
    ((w.modifyDesk t.desk fun d => { d with backend := .understudy u }).write (.created session), answer)

/-- The agent rebuilds a session. -/
def resumeSession (w : World M) (t : Task M) (session : String) (state : Json) : Backend → World M × Done
  | .echo e =>
    let (r, e, notices) := e.resume session state
    ((w.modifyDesk t.desk fun d => { d with backend := .echo e }).report notices, .ofUnit r)
  | .understudy u =>
    (w.modifyDesk t.desk fun d => { d with backend := .understudy (u.setState session state) }, .plain)

/-- The agent begins to respond. -/
def openStream (w : World M) (t : Task M) (session text : String) : Backend → World M × Task M × Done
  | .echo _ => (w, { t with stream := .echo (.fresh session text) }, .plain)
  | .understudy u =>
    let (script, u) := u.nextScript
    let w := (w.modifyDesk t.desk fun d => { d with backend := .understudy u }).write (.prompted session text)
    match script with
    | .refusal f => (w, t, .answered (.error f))
    | .lines ls closable => (w, { t with stream := .script session ls closable false }, .plain)

/-- The next chunk of a response. -/
def pullStream (w : World M) (t : Task M) (b : Backend) : World M × Task M × Done :=
  match t.stream, b with
  | .echo s, .echo e =>
    let (e, s, pull) := e.pull s
    let w := w.modifyDesk t.desk fun d => { d with backend := .echo e }
    let t := { t with stream := .echo s }
    match pull with
    | .pause => (w, t, .again [.yield])
    | .chunk piece => (w, t, .answered (.ok (.answer (.chunk (.str piece)))))
    | .exhausted => (w, t, .answered (.ok (.answer .exhausted)))
    | .failed f => (w, t, .answered (.error f))
  | .script session (.chunk piece :: rest) closable _, _ =>
    (w, { t with stream := .script session rest closable true }, .answered (.ok (.answer (.chunk piece))))
  | .script session (.cue c :: rest) closable started, _ =>
    (w, { t with stream := .script session rest closable started }, .again (cueStages c))
  | .script session [] _ _, .understudy u =>
    ((w.modifyDesk t.desk fun d => { d with backend := .understudy (u.countTurn session) }).write (.done session),
      { t with stream := .ended }, .answered (.ok (.answer .exhausted)))
  | _, _ => (w, { t with stream := .ended }, .answered (.ok (.answer .exhausted)))

/-- The response is no longer needed. A scripted one notices it when it has given a chunk. -/
def closeStream (w : World M) (t : Task M) : World M × Task M × Done :=
  let w :=
    match t.stream with
    | .script session _ true true => w.write (.closed session)
    | _ => w
  (w, { t with stream := .ended }, .plain)

/-- The store gives, takes or forgets a value. -/
def useStore (w : World M) : Call → World M × Done
  | .getValue key =>
    let (r, notices) := w.storage.get key
    (w.report notices, .answered (r.map fun v => .answer (.value v)))
  | .updateValue key value =>
    let (r, storage, notices) := w.storage.update key value
    ({ w with storage := storage }.report notices, .ofUnit r)
  | .deleteValue key =>
    let (r, storage, notices) := w.storage.delete key
    ({ w with storage := storage }.report notices, .ofUnit r)
  | _ => (w, .plain)

/-- Changes what is known of a connection. -/
def modifyClient (w : World M) (socket : Socket) (f : Client → Client) : World M :=
  match Assoc.get? socket w.clients with
  | some c => { w with clients := Assoc.put socket (f c) w.clients }
  | none => w

/-- Whether a frame says that the client has left. -/
def isLeave : Frame → Bool
  | .disconnect => true
  | _ => false

/-- The next frame of a connection. -/
def receive (w : World M) (socket : Socket) : World M × Done :=
  match Assoc.get? socket w.clients with
  | some ⟨frame :: rest, isOver⟩ =>
    (w.modifyClient socket fun _ => ⟨rest, isOver || isLeave frame⟩, .answered (.ok (.frame frame)))
  | _ => (w, .awaiting socket)

/-- Does the work of a call. -/
def perform (w : World M) (t : Task M) (b : Backend) : World M × Task M × Done :=
  let plainly (r : World M × Done) : World M × Task M × Done := (r.1, t, r.2)
  match t.call with
  | .ask .createSession => plainly (w.createSession t b)
  | .ask (.readState session) =>
    let state := match b with
      | .echo e => e.state session
      | .understudy u => u.state session
    (w, t, .answered (state.map fun v => .answer (.value v)))
  | .ask (.resumeSession session state) => plainly (w.resumeSession t session state b)
  | .ask (.openStream session text) => w.openStream t session text b
  | .ask .pullStream => w.pullStream t b
  | .ask .closeStream => w.closeStream t
  | .ask (.deliver event) => (w.record (.event event.toJson), t, .plain)
  | .ask call => plainly (w.useStore call)
  | .post socket message => (w.record (.posted socket.name message), t, .plain)
  | .accept socket => (w.record (.accepted socket.name), t, .plain)
  | .receive socket => plainly (w.receive socket)
  | .saveAgent name =>
    let (r, disk, notices) := Preferences.saveAgent w.storage.disk w.prefsPath name
    ({ w with storage.disk := disk }.report notices, t, .answered (r.map .written))
  | .proceed => (w, t, .plain)

/-! ## Turns -/

/-- The end of a task is seen. -/
def settle (w : World M) (label : Label) (result : Except Fault M.Result) : World M :=
  let w := match label.dispatched, result with
    | true, .error _ => w.report [.handlerFailed]
    | _, _ => w
  match label.step with
  | some step => { w with trace := { w.trace with finished := w.trace.finished ++ [(step, result)] } }
  | none => w

/-- Takes over a step of a routine. A task that waits goes to the front of the queue. -/
def take (w : World M) (label : Label) (desk : Nat) (stream : Stream)
    (turn : MachineTurn M.State M.Request M.Point M.Result) : World M :=
  let w := (w.modifyState desk fun _ => turn.state).report turn.notices
  let w := turn.forks.foldl (fun w r => w.enqueue (.start ⟨none, true⟩ desk r)) w
  match turn.next with
  | .finished result => w.enqueue (.settle label result)
  | .waiting call point =>
    match w.desk? desk with
    | some d =>
      { w with ready := .continue ⟨label, desk, stream, w.stagesOf d.backend call, false, call, point⟩ :: w.ready }
    | none => w

/-- A response is over when pulling it has failed. -/
def afterFault (t : Task M) : Stream :=
  match t.call with
  | .ask .pullStream => .ended
  | _ => t.stream

/-- A connection is over when a message was lost on the way. -/
def breakSocket (w : World M) (t : Task M) (f : Fault) : World M :=
  match t.call, f with
  | .post socket _, .backend .connection _ => w.modifyClient socket fun c => { c with isOver := true }
  | _, _ => w

/-- Goes on with the routine of a task. -/
def answer (w : World M) (t : Task M) (r : Except Fault SurfaceAnswer) : World M :=
  match w.desk? t.desk with
  | none => w
  | some d =>
    let w := match r with
      | .error f => w.breakSocket t f
      | .ok _ => w
    let stream := match r with
      | .error _ => afterFault t
      | .ok _ => t.stream
    w.take t.label t.desk stream (M.resume d.state r t.point)

/-- Whether a call takes a message to the surface. -/
def isDelivery : SurfaceCall → Bool
  | .ask (.deliver _) | .post _ _ => true
  | _ => false

/-- Hides the surface of a task that has delivered a message, if that is planned. -/
def hide (w : World M) (t : Task M) (done : Done) : World M :=
  match t.hides && isDelivery t.call, done with
  | true, .answered (.ok _) => w.modifyState t.desk M.hold
  | _, _ => w

/-- Does the work of a task whose stages are over. -/
def work (w : World M) (t : Task M) : World M :=
  match w.desk? t.desk with
  | none => w
  | some d =>
    let (w, t, done) := w.perform t d.backend
    let w := w.hide t done
    match done with
    | .answered r => w.answer t r
    | .again stages => { w with ready := .continue { t with stages := stages } :: w.ready }
    | .awaiting socket => { w with blocked := w.blocked ++ [(.frame socket, t)] }

/-- Takes the next stage of a task. -/
def stage (w : World M) (t : Task M) : World M :=
  match t.stages with
  | [] => w.work t
  | .hook name :: rest =>
    let (cue, plans) := w.plans.take name
    let t := { t with stages := cueStages cue ++ rest, hides := t.hides || cue.hides }
    { w with plans := plans, ready := .continue t :: w.ready }
  | .wait gate :: rest =>
    let t := { t with stages := rest }
    if w.openGates.contains gate then { w with ready := .continue t :: w.ready }
    else { w with blocked := w.blocked ++ [(.gate gate, t)] }
  | .yield :: rest => w.enqueue (.continue { t with stages := rest })
  | .fail f :: _ => w.answer t (.error f)
  | .write entry :: rest => { w.write entry with ready := .continue { t with stages := rest } :: w.ready }

/-- One turn: the first job of the queue goes on by one stage. -/
def turn (w : World M) : Option (World M) :=
  match w.ready with
  | [] => none
  | job :: rest =>
    let w := { w with ready := rest }
    match job with
    | .start label desk request =>
      match w.desk? desk with
      | some d => some (w.take label desk .ended (M.begin d.state request))
      | none => some w
    | .continue t => some (w.stage t)
    | .settle label result => some (w.settle label result)

/-- Takes turns until nothing can go on. -/
def run : Nat → World M → World M
  | 0, w => w
  | fuel + 1, w =>
    match w.turn with
    | some w => run fuel w
    | none => w

/-- More turns than a rehearsal can take. -/
def patience : Nat := 1000000

/-- Everything goes on until all tasks have ended or wait. -/
def settleDown (w : World M) : World M := run patience w

/-- How many messages are being handled apart from the rest. -/
def dispatchedCount (w : World M) : Nat := (w.blocked.filter fun e => e.2.label.dispatched).length

/-- The world after a look at it. -/
def clear (w : World M) : World M := { w with trace := .empty }

/-! ## Steps -/

/-- A frame comes in over a connection. -/
def deliverFrame (w : World M) (socket : Socket) (frame : Frame) : World M :=
  (w.modifyClient socket fun c => { c with inbox := c.inbox ++ [frame] }).wake (.frame socket)

/-- A client connects. -/
def connect (w : World M) (socket : Socket) : World M :=
  { w with clients := Assoc.put socket ⟨[], false⟩ w.clients }

/-- Puts a value into a store in memory, past the hooks. -/
def put (w : World M) (key : String) (value : Json) : World M :=
  match w.storage.store with
  | .memory entries => { w with storage.store := .memory (Assoc.put key value entries) }
  | .file _ => w

/-- Closes an outbox that stands alone, and sees how many events are lost. -/
def closeOutbox (w : World Machine.outbox) (step : Nat) : World Machine.outbox :=
  let lost := match w.state? with
    | some (b : Outbox Outbound) => b.close.2
    | none => 0
  (w.modifyState w.current fun (b : Outbox Outbound) => b.close.1).settle ⟨some step, false⟩ (.ok (.lost lost))

end World

end ChatRelay.Rehearsal
