import ChatRelay.Assoc
import ChatRelay.Fault

/-!
# What is planned for a rehearsal

- `Cue`: what is planned for one call: it waits for a gate, steps back once, fails, or hides the surface;
- `Plans`: the cues that each hook still has, used one after the other;
- `Mint`: the session names to give out.
-/

namespace ChatRelay.Rehearsal

/-- What happens at a call before it does its work. -/
structure Cue where
  /-- The gate to wait for. -/
  gate : Option String
  /-- Whether the other tasks that are ready go first. -/
  yields : Bool
  /-- What the call fails with. -/
  fault : Option Fault
  /-- Whether the surface is hidden when the call has done its work. -/
  hides : Bool

/-- The cue at which nothing happens. -/
def Cue.none : Cue := ⟨.none, false, .none, false⟩

/-- The cues of the hooks. -/
abbrev Plans := List (String × List Cue)

namespace Plans

/-- Adds cues to those of a hook. -/
def add (plans : Plans) (hook : String) (cues : List Cue) : Plans :=
  Assoc.put hook ((Assoc.get? hook plans).getD [] ++ cues) plans

/-- The next cue of a hook, and the plans without it. -/
def take (plans : Plans) (hook : String) : Cue × Plans :=
  match Assoc.get? hook plans with
  | some (cue :: rest) => (cue, Assoc.put hook rest plans)
  | _ => (.none, plans)

end Plans

/-- The session names to give out: the planned ones first, then numbered ones. -/
structure Mint where
  planned : List String
  /-- How many names were given out. -/
  count : Nat

/-- Gives out a name. -/
def Mint.next (m : Mint) : String × Mint :=
  match m.planned with
  | name :: rest => (name, ⟨rest, m.count + 1⟩)
  | [] => ("s" ++ toString (m.count + 1), ⟨[], m.count + 1⟩)

end ChatRelay.Rehearsal
