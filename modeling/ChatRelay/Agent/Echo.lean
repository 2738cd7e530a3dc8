import ChatRelay.Assoc
import ChatRelay.Event.Outbound
import ChatRelay.Notice
import ChatRelay.Routine

/-!
# The echo agent

The agent repeats what it was told, in chunks that end at the spaces. The state of a session is the list of its
turns, and a turn is recorded when the response to it has been pulled to its end.

- `Echo.create`, `Echo.resume`, `Echo.state`: the sessions;
- `Echo.pull`: the next chunk of a response. What the response says is settled when it is pulled first;
- `Echo.respond`: the chunks of a whole response;
- `Echo.chunks`: the chunks of a text, which put together give the text again.
-/

namespace ChatRelay

/-- The turns of a session. -/
structure EchoSession where
  /-- Tells the session from an earlier one of the same name. -/
  birth : Nat
  history : List Json

/-- What comes before each chunk. -/
inductive Delay
  | none
  | pause
  /-- Nothing that can be waited for, told by the kind of the value that it is. -/
  | unusable (kind : String)
deriving DecidableEq

/-- The delay that a value stands for: a number is a length of time, and what does not count as given is no delay. -/
def Delay.ofJson (v : Json) : Delay :=
  if v.truthy then
    match v with
    | .bool _ | .int _ | .float _ => .pause
    | v => .unusable v.kind
  else .none

/-- The echo agent. -/
structure Echo where
  delay : Delay
  sessions : List (String × EchoSession)
  /-- How many sessions were begun. -/
  births : Nat

namespace Echo

/-- An agent without sessions. -/
def new (delay : Delay) : Echo := ⟨delay, [], 0⟩

/-! ## Sessions -/

/-- Begins a session, in place of an earlier one of its name. -/
def begin (e : Echo) (session : String) : Echo :=
  { e with sessions := Assoc.put session ⟨e.births, []⟩ e.sessions, births := e.births + 1 }

/-- Begins a session and reports it. -/
def create (e : Echo) (session : String) : Echo × List Notice := (e.begin session, [.echoCreated session])

/-- The turns of a session. -/
def history (e : Echo) (session : String) : Except Fault (List Json) :=
  match Assoc.get? session e.sessions with
  | some s => .ok s.history
  | none => .error (.unknownSession session)

/-- The state of a session. -/
def state (e : Echo) (session : String) : Except Fault Json :=
  (e.history session).map fun turns => .obj [("history", .arr turns)]

/-- The turns that a value lists: a text lists its characters and an object its keys. -/
def turnsOf : Json → Except Fault (List Json)
  | .arr turns => .ok turns
  | .str s => .ok (s.toList.map fun c => .str (String.ofList [c]))
  | .obj members => .ok (members.map fun m => .str m.1)
  | v => .error (.turnsNotListed v.kind)

/-- The turns of a state. A state without turns has none. -/
def stateTurns (state : Json) : Except Fault (List Json) :=
  match state.get? "history" with
  | some turns => turnsOf turns
  | none => .ok []

/-- Gives a session its turns. -/
def setHistory (e : Echo) (session : String) (turns : List Json) : Echo :=
  match Assoc.get? session e.sessions with
  | some s => { e with sessions := Assoc.put session { s with history := turns } e.sessions }
  | none => e

/-- Begins a session unless it is there. -/
def ensure (e : Echo) (session : String) : Echo :=
  if Assoc.contains session e.sessions then e else e.begin session

/-- Rebuilds a session from a state. A session that is there keeps its running responses, and is there also after a
state that lists no turns. -/
def resume (e : Echo) (session : String) (state : Json) : Except Fault Unit × Echo × List Notice :=
  let e := e.ensure session
  match stateTurns state with
  | .ok turns => (.ok (), e.setHistory session turns, [.echoResumed session turns.length])
  | .error f => (.error f, e, [])

/-! ## Responses -/

/-- The chunks of a text after the reversed beginning of a chunk: it is cut after every space. -/
def chunksFrom (part : List Char) : List Char → List (List Char)
  | [] => [part.reverse]
  | c :: cs => if c = ' ' then (c :: part).reverse :: chunksFrom [] cs else chunksFrom (c :: part) cs

/-- The chunks of a text. -/
def chunks (s : String) : List String := (chunksFrom [] s.toList).map String.ofList

/-- What the agent says in a turn. -/
def reply (turn : Nat) (text : String) : String := "[turn " ++ toString turn ++ "] You said: " ++ text

/-- A turn as it is recorded. -/
def turnRecord (text said : String) : Json := .obj [("prompt", .str text), ("reply", .str said)]

/-- A response. -/
inductive Stream
  /-- Nothing was pulled yet. -/
  | fresh (session text : String)
  /-- The chunks that are left, and whether the pause before the next one is over. -/
  | running (session : String) (birth : Nat) (text said : String) (left : List String) (rested : Bool)
  | ended

/-- What comes of pulling a response. -/
inductive Pull
  /-- A pause, after which the response has to be pulled again. -/
  | pause
  | chunk (piece : String)
  | exhausted
  | failed (f : Fault)

/-- Records a turn, unless its session was replaced. -/
def record (e : Echo) (session : String) (birth : Nat) (text said : String) : Echo :=
  match Assoc.get? session e.sessions with
  | some s => if s.birth = birth then e.setHistory session (s.history ++ [turnRecord text said]) else e
  | none => e

/-- Goes on with a response that has been settled. -/
def speak (e : Echo) (session : String) (birth : Nat) (text said : String) (left : List String) (rested : Bool) :
    Echo × Stream × Pull :=
  match left with
  | [] => (e.record session birth text said, .ended, .exhausted)
  | piece :: rest =>
    match e.delay, rested with
    | .unusable kind, _ => (e, .ended, .failed (.delayNotNumber kind))
    | .pause, false => (e, .running session birth text said left true, .pause)
    | _, _ => (e, .running session birth text said rest false, .chunk piece)

/-- Pulls a response. -/
def pull (e : Echo) : Stream → Echo × Stream × Pull
  | .fresh session text =>
    match Assoc.get? session e.sessions with
    | some s =>
      let said := reply (s.history.length + 1) text
      speak e session s.birth text said (chunks said) false
    | none => (e, .ended, .failed (.unknownSession session))
  | .running session birth text said left rested => speak e session birth text said left rested
  | .ended => (e, .ended, .exhausted)

/-- Pulls a response past a pause. -/
def next (e : Echo) (s : Stream) : Echo × Stream × Pull :=
  match e.pull s with
  | (e, s, .pause) => e.pull s
  | r => r

/-- Pulls a whole response. -/
def respond (e : Echo) (session text : String) : Except Fault (List String) × Echo :=
  match Assoc.get? session e.sessions with
  | some s =>
    let said := reply (s.history.length + 1) text
    match e.delay with
    | .unusable kind => (.error (.delayNotNumber kind), e)
    | _ => (.ok (chunks said), e.record session s.birth text said)
  | none => (.error (.unknownSession session), e)

end Echo

end ChatRelay
