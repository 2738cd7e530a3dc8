import ChatRelay.Event.Outbound
import ChatRelay.Fault

/-!
# Routines

Everything that the relay does for one request is a routine: it runs on the state of its owner without a pause until
it needs something of an agent, a store or a surface, and goes on when the answer has come. A routine is given by
the points at which it can wait, a start and a step that resumes it at a point with an answer. Between two such steps
anything may happen to the state, so a schedule of several routines is a sequence of starts and resumptions.

- `Call` and `Answer`: what a routine can wait for;
- `Next`: how a routine goes on after a step;
- `Runs`: a routine that runs alone, from a step to its end.
-/

namespace ChatRelay

/-- What a routine asks of its surroundings. -/
inductive Call
  /-- The agent makes a new session. -/
  | createSession
  /-- The agent reports the state of a session. -/
  | readState (session : String)
  /-- The agent rebuilds a session from a state. -/
  | resumeSession (session : String) (state : Json)
  /-- The agent begins to respond to a prompt. -/
  | openStream (session text : String)
  /-- The agent gives the next chunk of its response. -/
  | pullStream
  /-- The response is no longer needed. -/
  | closeStream
  /-- The store gives the value of a key, null when there is none. -/
  | getValue (key : String)
  /-- The store takes a value for a key. -/
  | updateValue (key : String) (value : Json)
  /-- The store forgets a key. -/
  | deleteValue (key : String)
  /-- The surface takes a message. -/
  | deliver (event : Outbound)

/-- What comes back from a call that did not fail. -/
inductive Answer
  | done
  | session (id : String)
  | value (v : Json)
  | chunk (piece : Json)
  /-- The response has no more chunks. -/
  | exhausted

/-- The value that an answer brings, null when it brings none. -/
def Answer.toValue : Answer → Json
  | .value v => v
  | _ => .null

/-- The session that an answer names. -/
def Answer.toSession : Answer → String
  | .session id => id
  | _ => ""

/-- How a routine goes on: it is finished, or it waits at a point for the answer to a call. -/
inductive Next (κ ρ α : Type)
  | finished (result : Except Fault α)
  | waiting (call : κ) (point : ρ)

/-! ## Routines that run alone -/

section

variable {σ τ ρ α : Type} (next : τ → Next Call ρ α) (resume : τ → ρ → Except Fault Answer → τ)
  (R : σ → Call → Except Fault Answer → σ → Prop)

/-- A routine runs from a turn to its end, with its calls and their answers. The relation tells what the surroundings
can answer, and what becomes of them. -/
inductive Runs : τ → σ → List (Call × Except Fault Answer) → τ → σ → Except Fault α → Prop
  | finished {t : τ} {w : σ} {result : Except Fault α} : next t = .finished result → Runs t w [] t w result
  | waiting {t t' : τ} {w w' w'' : σ} {call : Call} {pt : ρ} {a : Except Fault Answer}
      {dialogue : List (Call × Except Fault Answer)} {result : Except Fault α} :
      next t = .waiting call pt → R w call a w' → Runs (resume t pt a) w' dialogue t' w'' result →
      Runs t w ((call, a) :: dialogue) t' w'' result

variable {next resume R}

/-- What holds at a turn and is kept by every answer holds at the end. -/
theorem Runs.preserves {P : τ → σ → Prop}
    (hkeep : ∀ {t w call pt a w'}, P t w → next t = .waiting call pt → R w call a w' → P (resume t pt a) w')
    {t t' : τ} {w w' : σ} {dialogue : List (Call × Except Fault Answer)} {result : Except Fault α}
    (h : Runs next resume R t w dialogue t' w' result) (hp : P t w) : next t' = .finished result ∧ P t' w' := by
  induction h with
  | finished hn => exact ⟨hn, hp⟩
  | waiting hn hr _ ih => exact ih (hkeep hp hn hr)

/-- Where the surroundings have one answer to a call, a routine has one way to its end. -/
theorem Runs.unique (hunique : ∀ {w call a a' w' w''}, R w call a w' → R w call a' w'' → a = a' ∧ w' = w'')
    {t t₁ t₂ : τ} {w w₁ w₂ : σ} {d₁ d₂ : List (Call × Except Fault Answer)} {r₁ r₂ : Except Fault α}
    (h₁ : Runs next resume R t w d₁ t₁ w₁ r₁) (h₂ : Runs next resume R t w d₂ t₂ w₂ r₂) :
    d₁ = d₂ ∧ t₁ = t₂ ∧ w₁ = w₂ ∧ r₁ = r₂ := by
  induction h₁ generalizing d₂ with
  | finished hn =>
    cases h₂ with
    | finished hn' =>
      rw [hn] at hn'
      cases hn'
      exact ⟨rfl, rfl, rfl, rfl⟩
    | waiting hn' => rw [hn] at hn'; cases hn'
  | waiting hn ha _ ih =>
    cases h₂ with
    | finished hn' => rw [hn] at hn'; cases hn'
    | waiting hn' ha' hrest' =>
      rw [hn] at hn'
      cases hn'
      obtain ⟨rfl, rfl⟩ := hunique ha ha'
      obtain ⟨rfl, rfl, rfl, rfl⟩ := ih hrest'
      exact ⟨rfl, rfl, rfl, rfl⟩

end

end ChatRelay
