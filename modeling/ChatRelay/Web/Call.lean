import ChatRelay.Routine

/-!
# Sockets

- `Socket`: a connection of a client, told from an earlier one of the same name;
- `Frame`: what comes in over a connection;
- `SurfaceCall` and `SurfaceAnswer`: what a surface in a web page waits for: all that a coordinator waits for, and the
  traffic of its sockets.
-/

namespace ChatRelay

/-- A connection of a client. -/
structure Socket where
  name : String
  serial : Nat
deriving DecidableEq

/-- What comes in over a connection. -/
inductive Frame
  | text (s : String)
  | bytes
  | disconnect

/-- What a surface in a web page waits for. -/
inductive SurfaceCall
  | ask (call : Call)
  /-- A message is sent over a socket. -/
  | post (socket : Socket) (message : Json)
  /-- A connection is accepted. -/
  | accept (socket : Socket)
  /-- The next frame of a connection. -/
  | receive (socket : Socket)
  /-- The name of the agent is written to the preferences. -/
  | saveAgent (name : String)
  /-- Nothing: the routine goes on at once. -/
  | proceed

/-- What comes back from a call of a surface that did not fail. -/
inductive SurfaceAnswer
  | answer (a : Answer)
  | frame (f : Frame)
  /-- Whether something was written. -/
  | written (ok : Bool)

/-- The answer to what a coordinator waits for. -/
def SurfaceAnswer.toAnswer : SurfaceAnswer → Answer
  | .answer a => a
  | _ => .done

end ChatRelay
