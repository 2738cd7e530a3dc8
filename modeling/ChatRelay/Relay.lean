import ChatRelay.Routine

/-!
# Relaying a response

One response of an agent becomes chunk events and one completing event. The stream is pulled until it is exhausted or
fails; every chunk is passed on before the next one is pulled, and the stream is closed on every way out once it was
opened.

- `Relay.start`, `Relay.resume`, `Relay.passed`: the routine. It waits for the stream at the points `Relay.Point`, and
  hands an event over at the points `Relay.Handover`;
- a stream that cannot be opened or pulled ends the routine with `Fault.relay`, which counts the chunks passed on;
  a fault of the one who takes the events ends it unchanged.
-/

namespace ChatRelay

/-- A prompt on its way to a session. -/
structure Prompt where
  tab : String
  message : String
  session : String
  text : String

namespace Relay

/-- How the pulling of a stream ended. -/
inductive Ending
  | exhausted (sent : Nat)
  | broken (fault : Fault)

/-- Where the routine waits for the stream. -/
inductive Point
  | opening
  | pulling (sent : Nat)
  | closing (ending : Ending)

/-- Where the routine waits for an event to be taken. -/
inductive Handover
  | chunk (sent : Nat)
  | completion (sent : Nat)

/-- How the routine goes on: it hands an event over, or ends or waits for the stream. -/
inductive Step
  | pass (event : Outbound) (handover : Handover)
  | next (next : Next Call Point Nat)

/-- The routine begins with opening the stream. -/
def start (p : Prompt) : Next Call Point Nat := .waiting (.openStream p.session p.text) .opening

/-- Closes the stream. -/
def finish (ending : Ending) : Step := .next (.waiting .closeStream (.closing ending))

/-- Goes on when the stream has answered. -/
def resume (p : Prompt) : Point → Except Fault Answer → Step
  | .opening, .ok _ => .next (.waiting .pullStream (.pulling 0))
  | .opening, .error f => .next (.finished (.error (.relay p.tab p.message 0 f)))
  | .pulling sent, .ok (.chunk piece) => .pass (.chunk p.tab p.message piece) (.chunk sent)
  | .pulling sent, .ok _ => finish (.exhausted sent)
  | .pulling sent, .error f => finish (.broken (.relay p.tab p.message sent f))
  | .closing _, .error f => .next (.finished (.error f))
  | .closing (.exhausted sent), .ok _ => .pass (.complete p.tab p.message) (.completion sent)
  | .closing (.broken f), .ok _ => .next (.finished (.error f))

/-- Goes on when an event was taken or refused. The result is the number of chunks. -/
def passed : Handover → Except Fault Unit → Next Call Point Nat
  | .chunk sent, .ok () => .waiting .pullStream (.pulling (sent + 1))
  | .chunk _, .error f => .waiting .closeStream (.closing (.broken f))
  | .completion sent, .ok () => .finished (.ok sent)
  | .completion _, .error f => .finished (.error f)

end Relay

end ChatRelay
