import ChatRelay.Coordinator.Handle
import ChatRelay.Proofs.Schedule

/-!
# Schedules of a coordinator

The handlers of one coordinator in any order. The answers that they wait for may come at any time and bring anything.

- `Scene`: the coordinator with all handlers that were begun on it;
- `Scene.step`, `Scene.run`, `Scene.upTo`: one move, a schedule, and a schedule as far as its first moves, made of
  `Coordinator.begin` and `Coordinator.resume`;
- `Scene.Shift`: all that one move can do.
-/

namespace ChatRelay.Coordinator

/-- A request that is being handled or was. -/
abbrev Handler := Schedule.Handler Request Call Answer Point Outcome

/-- A coordinator with its handlers. -/
abbrev Scene := Schedule.Scene Coordinator Request Call Answer Point Outcome

/-- What can happen next. -/
abbrev Move := Schedule.Move Request Answer

namespace Scene

/-- The coordinator of a scene. -/
abbrev coordinator (s : Scene) : Coordinator := s.owner

@[simp]
theorem coordinator_mk (c : Coordinator) (hs : List Handler) : coordinator ⟨c, hs⟩ = c := rfl

/-- A coordinator that nothing was asked of. -/
def start (shelf : Shelf) (visible : Bool) : Scene := ⟨new shelf visible, []⟩

variable [Host]

/-- One move. A handler that waits for nothing takes no answer. -/
abbrev step (s : Scene) (m : Move) : Scene := Schedule.step begin resume Turn.coordinator Turn.next s m

/-- A schedule. -/
abbrev run (s : Scene) (moves : List Move) : Scene := Schedule.run begin resume Turn.coordinator Turn.next s moves

/-- A schedule on a new coordinator, as far as its first moves. -/
abbrev upTo (shelf : Shelf) (visible : Bool) (moves : List Move) (k : Nat) : Scene :=
  Schedule.upTo begin resume Turn.coordinator Turn.next (start shelf visible) moves k

/-- All that one move can do. -/
abbrev Shift (s : Scene) (m : Move) (s' : Scene) : Prop :=
  Schedule.Shift begin resume Turn.coordinator Turn.next s m s'

/-- One move does one of the things of `Shift`. -/
theorem step_shift (s : Scene) (m : Move) : Shift s m (s.step m) := Schedule.step_shift s m

/-- The step of a handler that is answered. -/
theorem step_answer {s : Scene} {i : Nat} {r : Request} {d : List (Call × Except Fault Answer)} {call : Call}
    {pt : Point} (h : s.handlers[i]? = some ⟨r, d, .waiting call pt⟩) (a : Except Fault Answer) :
    s.step (.answer i a) = ⟨(s.coordinator.resume a pt).coordinator,
      s.handlers.set i ⟨r, d ++ [(call, a)], (s.coordinator.resume a pt).next⟩⟩ :=
  Schedule.step_answer h a

section

variable {shelf : Shelf} {visible : Bool} {moves : List Move} {k : Nat}

theorem upTo_succ {m : Move} (h : moves[k]? = some m) :
    upTo shelf visible moves (k + 1) = (upTo shelf visible moves k).step m :=
  Schedule.upTo_succ h

theorem upTo_past (h : moves[k]? = none) : upTo shelf visible moves (k + 1) = upTo shelf visible moves k :=
  Schedule.upTo_past h

theorem upTo_of_length_le (h : moves.length ≤ k) :
    upTo shelf visible moves k = upTo shelf visible moves moves.length :=
  Schedule.upTo_of_length_le h

end

end Scene

end ChatRelay.Coordinator
