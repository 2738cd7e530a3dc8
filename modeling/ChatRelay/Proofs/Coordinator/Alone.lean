import ChatRelay.Coordinator.Handle

/-!
# One request at a time

A handler that runs alone goes from call to call until it ends, and what is around it, the agent, the store and the
surface, answers one call after the other.

- `Carries`: a handler runs from a turn to its end, with its calls and their answers;
- `Moment`, `Handles`: a coordinator with its surroundings, before and after a request;
- `Series`: requests that are handled one after the other, with all that is seen of them;
- `Course`: the moments between the requests of a sequence.
-/

namespace ChatRelay.Coordinator

section

variable {σ : Type} (R : σ → Call → Except Fault Answer → σ → Prop)

/-- A handler runs alone from a turn to its end. The relation tells what the surroundings can answer, and what becomes
of them. -/
inductive Carries : Turn → σ → List (Call × Except Fault Answer) → Coordinator → σ → Except Fault Outcome → Prop
  | finished {t : Turn} {w : σ} {result : Except Fault Outcome} : t.next = .finished result →
      Carries t w [] t.coordinator w result
  | waiting {t : Turn} {w w' w'' : σ} {call : Call} {pt : Point} {a : Except Fault Answer}
      {dialogue : List (Call × Except Fault Answer)} {c : Coordinator} {result : Except Fault Outcome} :
      t.next = .waiting call pt → R w call a w' → Carries (t.coordinator.resume a pt) w' dialogue c w'' result →
      Carries t w ((call, a) :: dialogue) c w'' result

variable {R}

/-- A handler that runs alone is a routine that runs alone. -/
theorem Carries.runs {t : Turn} {w w' : σ} {dialogue : List (Call × Except Fault Answer)} {c : Coordinator}
    {result : Except Fault Outcome} (h : Carries R t w dialogue c w' result) :
    ∃ t', t'.coordinator = c ∧
      Runs Turn.next (fun t pt a => t.coordinator.resume a pt) R t w dialogue t' w' result := by
  induction h with
  | finished hn => exact ⟨_, rfl, .finished hn⟩
  | waiting hn ha _ ih =>
    obtain ⟨t', hc, hrun⟩ := ih
    exact ⟨t', hc, .waiting hn ha hrun⟩

/-- A turn that ends is the end. -/
theorem carries_finished_iff {t : Turn} {w w' : σ} {dialogue : List (Call × Except Fault Answer)} {c : Coordinator}
    {r result : Except Fault Outcome} (hn : t.next = .finished r) :
    Carries R t w dialogue c w' result ↔ dialogue = [] ∧ c = t.coordinator ∧ w' = w ∧ result = r := by
  constructor
  · intro h
    cases h with
    | finished hn' =>
      rw [hn] at hn'
      cases hn'
      exact ⟨rfl, rfl, rfl, rfl⟩
    | waiting hn' => rw [hn] at hn'; cases hn'
  · rintro ⟨rfl, rfl, rfl, rfl⟩
    exact .finished hn

/-- A turn that waits goes on with an answer. -/
theorem carries_waiting_iff {t : Turn} {w w' : σ} {dialogue : List (Call × Except Fault Answer)} {c : Coordinator}
    {call : Call} {pt : Point} {result : Except Fault Outcome} (hn : t.next = .waiting call pt) :
    Carries R t w dialogue c w' result ↔ ∃ a w₁ rest, R w call a w₁ ∧ dialogue = (call, a) :: rest ∧
      Carries R (t.coordinator.resume a pt) w₁ rest c w' result := by
  constructor
  · intro h
    cases h with
    | finished hn' => rw [hn] at hn'; cases hn'
    | waiting hn' ha hrest =>
      rw [hn] at hn'
      cases hn'
      exact ⟨_, _, _, ha, rfl, hrest⟩
  · rintro ⟨a, w₁, rest, ha, rfl, hrest⟩
    exact .waiting hn ha hrest

variable (R)

/-- A coordinator with its surroundings, between two requests. -/
structure Moment (σ : Type) where
  coordinator : Coordinator
  outside : σ

/-- A request that is handled alone. -/
def Handles [Host] (r : Request) (x y : Moment σ) : Prop :=
  ∃ dialogue result, Carries R (x.coordinator.begin r) x.outside dialogue y.coordinator y.outside result

/-- A request that was handled: the calls that were made with their answers, the result, and the moment after it. -/
structure Episode (σ : Type) where
  dialogue : List (Call × Except Fault Answer)
  result : Except Fault Outcome
  after : Moment σ

/-- Requests that are handled one after the other, each to its end. -/
inductive Series [Host] : List Request → Moment σ → List (Episode σ) → Prop
  | nil (x : Moment σ) : Series [] x []
  | cons {r : Request} {rest : List Request} {x : Moment σ} {e : Episode σ} {es : List (Episode σ)} :
      Carries R (x.coordinator.begin r) x.outside e.dialogue e.after.coordinator e.after.outside e.result →
      Series rest e.after es → Series (r :: rest) x (e :: es)

/-- The moments between requests that are handled one after the other. -/
structure Course [Host] (requests : List Request) (x : Moment σ) (s : Nat → Moment σ) : Prop where
  start : s 0 = x
  next : ∀ k r, requests[k]? = some r → Handles R r (s k) (s (k + 1))

variable {R}

/-- What holds when a handler begins and is kept by every answer holds when it ends. -/
theorem Carries.preserves {P : Turn → σ → Prop}
    (hkeep : ∀ {t w call pt a w'}, P t w → t.next = .waiting call pt → R w call a w' → P (t.coordinator.resume a pt) w')
    {t : Turn} {w w' : σ} {dialogue : List (Call × Except Fault Answer)} {c : Coordinator}
    {result : Except Fault Outcome} (h : Carries R t w dialogue c w' result) (hp : P t w) :
    ∃ t', t'.coordinator = c ∧ t'.next = .finished result ∧ P t' w' := by
  obtain ⟨t', hc, hrun⟩ := h.runs
  exact ⟨t', hc, hrun.preserves hkeep hp⟩

end

end ChatRelay.Coordinator
