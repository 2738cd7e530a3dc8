import ChatRelay.Proofs.Agent.Echo
import ChatRelay.Proofs.Coordinator.Duty
import ChatRelay.Proofs.Coordinator.Setting
import ChatRelay.Proofs.Restart.Surroundings

/-!
# Handlers that take turns

An echo agent and a store in memory answer at once, so a handler of theirs gives way to others in two places only:
while the surface takes a message, and in the pause before a chunk.

- `Play`: the handlers of a coordinator with the store, the agent, and the responses that the agent gives;
- `Play.reply`: what a call of a handler comes to;
- `Play.step`, `Play.run`: one move and a schedule. A handler that does not have to wait goes on before any other;
- `Play.Change`: all that one move can do (`Play.step_change`).
-/

namespace ChatRelay

/-- Whether the pause before the next chunk has begun. -/
def Echo.Stream.rested : Echo.Stream → Bool
  | .running _ _ _ _ _ rested => rested
  | _ => false

namespace Coordinator

/-- The handlers of a coordinator, the values in the store, the agent with the number of session ids it has given out,
and the response that it gives to each handler. -/
structure Play where
  scene : Scene
  store : Values
  echo : Echo
  issued : Nat
  streams : Nat → Echo.Stream

namespace Play

/-- A coordinator with an empty store and an agent that has no sessions. -/
def start (shelf : Shelf) (visible : Bool) (delay : Delay) : Play :=
  ⟨.start shelf visible, fun _ => .null, .new delay, 0, fun _ => .ended⟩

/-- What can happen next: a request is begun, or a handler goes on. -/
inductive Move
  | begin (r : Request)
  | goOn (handler : Nat)

/-- Whether a handler goes on without waiting for a delivery or for the end of a pause. -/
def busy (s : Play) (i : Nat) : Bool :=
  match s.scene.call? i with
  | some (.deliver _) => false
  | some .pullStream => !(s.streams i).rested
  | some _ => true
  | none => false

/-- Whether no other handler is busy. -/
def free (s : Play) (i : Nat) : Bool := (List.range s.scene.handlers.length).all fun j => j = i || !s.busy j

section

variable (ids : Nat → String)

/-- What a call of a handler comes to: an answer, or a pause. New sessions have the ids of a sequence, and the surface
takes every message. -/
def reply (s : Play) (i : Nat) : Call → Option (Except Fault Answer) × Play
  | .createSession =>
    (some (.ok (.session (ids s.issued))),
      { s with echo := (s.echo.create (ids s.issued)).1, issued := s.issued + 1 })
  | .readState session => (some ((s.echo.state session).map .value), s)
  | .resumeSession session state =>
    let r := s.echo.resume session state
    (some (r.1.map fun _ => .done), { s with echo := r.2.1 })
  | .openStream session text =>
    (some (.ok .done), { s with streams := Function.update s.streams i (.fresh session text) })
  | .pullStream =>
    let r := s.echo.pull (s.streams i)
    let s := { s with echo := r.1, streams := Function.update s.streams i r.2.1 }
    match r.2.2 with
    | .pause => (none, s)
    | pull => (some (pulled pull), s)
  | .closeStream => (some (.ok .done), { s with streams := Function.update s.streams i .ended })
  | call =>
    match carryOut s.store call with
    | some (a, store) => (some (.ok a), { s with store := store })
    | none => (some (.ok .done), s)

/-- One move. Nothing happens while another handler is busy. -/
def step [Host] (s : Play) : Move → Play
  | .begin r => if s.free s.scene.handlers.length then { s with scene := s.scene.step (.begin r) } else s
  | .goOn i =>
    match s.scene.call? i with
    | some call =>
      if s.free i then
        match s.reply ids i call with
        | (some a, s) => { s with scene := s.scene.step (.answer i a) }
        | (none, s) => s
      else s
    | none => s

/-- A schedule. -/
def run [Host] (s : Play) (moves : List Move) : Play := moves.foldl (step ids) s

/-! ## What one move can do -/

theorem scene_reply (s : Play) (i : Nat) (call : Call) : (s.reply ids i call).2.scene = s.scene := by
  unfold reply
  split
  case h_5 => dsimp only; split <;> rfl
  case h_7 => split <;> rfl
  all_goals rfl

/-- The only thing that takes time is a pause, which changes nothing but the response. -/
theorem reply_none {s s' : Play} {i : Nat} {call : Call} (h : s.reply ids i call = (none, s')) :
    ∃ stream, s' = { s with streams := Function.update s.streams i stream } := by
  unfold reply at h
  split at h
  case h_5 =>
    dsimp only at h
    split at h
    · next hpause =>
      obtain rfl := (Prod.mk.inj h).2
      rcases Echo.pull_sessions s.echo (s.streams i) with hsame | ⟨hover, -⟩
      · exact ⟨_, by rw [hsame]⟩
      · rw [hpause] at hover
        cases hover
    · cases h
  case h_7 => split at h <;> cases h
  all_goals cases h

/-- All that one move can do. -/
inductive Change [Host] (s : Play) : Move → Play → Prop
  /-- Another handler is busy, or the handler is finished. -/
  | idle (m : Move) : Change s m s
  | begin (r : Request) : (∀ j, s.busy j = false) → Change s (.begin r) { s with scene := s.scene.step (.begin r) }
  /-- The pause before a chunk begins. -/
  | pause (i : Nat) (stream : Echo.Stream) :
      Change s (.goOn i) { s with streams := Function.update s.streams i stream }
  | answer (i : Nat) (r : Request) (d : List (Call × Except Fault Answer)) (call : Call) (pt : Point)
      (a : Except Fault Answer) (s' : Play) : s.scene.handlers[i]? = some ⟨r, d, .waiting call pt⟩ →
      (∀ j, j ≠ i → s.busy j = false) → s.reply ids i call = (some a, s') →
      Change s (.goOn i) { s' with scene := s.scene.step (.answer i a) }

theorem not_busy_of_free {s : Play} {i : Nat} (h : s.free i = true) {j : Nat} (hj : j ≠ i) : s.busy j = false := by
  by_cases hlt : j < s.scene.handlers.length
  · have hall := List.all_eq_true.1 h j (List.mem_range.2 hlt)
    simpa [hj] using hall
  · have hnone : s.scene.handlers[j]? = none := List.getElem?_eq_none (Nat.le_of_not_lt hlt)
    simp [busy, Scene.call?, hnone]

theorem step_change [Host] (s : Play) (m : Move) : Change ids s m (s.step ids m) := by
  cases m with
  | begin r =>
    simp only [step]
    split
    · next hfree =>
      refine .begin r fun j => ?_
      by_cases hj : j = s.scene.handlers.length
      · subst hj
        simp [busy, Scene.call?]
      · exact not_busy_of_free hfree hj
    · exact .idle _
  | goOn i =>
    simp only [step]
    split
    · next call hcall =>
      split
      · next hfree =>
        obtain ⟨r, d, pt, hi⟩ := Setting.call_eq_some hcall
        split
        · next a s' hreply =>
          have hscene : s'.scene = s.scene := by rw [← scene_reply ids s i call, hreply]
          rw [hscene]
          exact .answer i r d call pt a s' hi (fun j hj => not_busy_of_free hfree hj) hreply
        · next s' hreply =>
          obtain ⟨stream, rfl⟩ := reply_none ids hreply
          exact .pause i stream
      · exact .idle _
    · exact .idle _

/-- What every move keeps, every schedule keeps. -/
theorem moves_induction [Host] {P : Play → Prop} {moves : List Move}
    (hs : ∀ {s m s'}, m ∈ moves → Change ids s m s' → P s → P s') {s : Play} (h : P s) : P (s.run ids moves) := by
  induction moves generalizing s with
  | nil => exact h
  | cons m moves ih =>
    exact ih (fun hm => hs (List.mem_cons_of_mem _ hm)) (hs List.mem_cons_self (step_change ids s m) h)

end

end Play

end Coordinator

end ChatRelay
