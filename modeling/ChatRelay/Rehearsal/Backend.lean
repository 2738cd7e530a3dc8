import ChatRelay.Agent.Echo
import ChatRelay.Json.Printer
import ChatRelay.Rehearsal.Cue

/-!
# Agents in a rehearsal

- `Understudy`: an agent that responds from prepared scripts and whose sessions are counters of their turns;
- `JournalEntry`: what an understudy writes down about the calls it gets;
- `Backend`: the echo agent or an understudy, and `Stream`, a response of either.
-/

namespace ChatRelay.Rehearsal

/-- One part of a scripted response. -/
inductive Line
  | cue (c : Cue)
  | chunk (piece : Json)

/-- A scripted response. -/
inductive Script
  /-- There is none: the prompt is refused. -/
  | refusal (f : Fault)
  /-- The lines, and whether the response notices that it is closed. -/
  | lines (ls : List Line) (closable : Bool)

/-- What an understudy writes down. -/
inductive JournalEntry
  | created (session : String)
  | prompted (session text : String)
  | done (session : String)
  | closed (session : String)
  | reported (session : String)
  | resumed (session : String) (state : Json)

/-- An agent that responds from scripts. -/
structure Understudy where
  states : List (String × Json)
  /-- The sessions whose states cannot be read. -/
  unreadable : List String
  scripts : List Script

namespace Understudy

/-- The state of a session after some turns. -/
def turnState (turns : Int) : Json := .obj [("turns", .int turns)]

/-- How many turns a state counts. -/
def turnsOf (state : Json) : Int :=
  match state.getD "turns" with
  | .int n => n
  | _ => 0

/-- The state of a session, as a copy that is made through text. -/
def state [Host] (u : Understudy) (session : String) : Except Fault Json :=
  if u.unreadable.contains session then .error (.unknownSession session)
  else
    match Assoc.get? session u.states with
    | some v =>
      match v.refusal? 0 with
      | some f => .error f
      | none => .ok v
    | none => .error (.unknownSession session)

/-- Gives a session a state. -/
def setState (u : Understudy) (session : String) (v : Json) : Understudy :=
  { u with states := Assoc.put session v u.states }

/-- Counts a turn of a session. -/
def countTurn (u : Understudy) (session : String) : Understudy :=
  u.setState session (turnState (turnsOf ((Assoc.get? session u.states).getD .null) + 1))

/-- The next script; without one a response is empty. -/
def nextScript (u : Understudy) : Script × Understudy :=
  match u.scripts with
  | s :: rest => (s, { u with scripts := rest })
  | [] => (.lines [] true, u)

end Understudy

/-- The agent of a rehearsal. -/
inductive Backend
  | echo (e : Echo)
  | understudy (u : Understudy)

/-- A response of the agent of a rehearsal. -/
inductive Stream
  | echo (s : Echo.Stream)
  /-- The lines that are left, and whether a chunk was given already. -/
  | script (session : String) (left : List Line) (closable started : Bool)
  | ended

end ChatRelay.Rehearsal
