import ChatRelay.Agent.Echo
import ChatRelay.Proofs.Coordinator.Alone
import ChatRelay.Store.KeyValue

/-!
# A coordinator among an echo agent and a store

The surroundings of a coordinator answer its calls by the echo agent and the store; the surface takes every message.

- `Surroundings.answer`: the answer to a call, and what becomes of the surroundings;
- `Performs`: requests that are handled one after the other, with what is seen of each;
- `Performs.unique`: there is only one way in which they can be;
- `Leads`: a handler that runs to its end, with the messages that it delivers.
-/

namespace ChatRelay.Coordinator

/-- The store, the agent, the response that the agent gives, and how many session ids were given out. -/
structure Surroundings where
  storage : Storage
  echo : Echo
  stream : Echo.Stream
  issued : Nat

/-- What comes of pulling a response. -/
def pulled : Echo.Pull → Except Fault Answer
  | .chunk piece => .ok (.chunk (.str piece))
  | .failed f => .error f
  | _ => .ok .exhausted

section

variable [Host] (ids : Nat → String)

/-- The answer to a call, and the surroundings after it. New sessions have the ids of a sequence. -/
def Surroundings.answer (w : Surroundings) : Call → Except Fault Answer × Surroundings
  | .createSession =>
    (.ok (.session (ids w.issued)), { w with echo := (w.echo.create (ids w.issued)).1, issued := w.issued + 1 })
  | .readState session => ((w.echo.state session).map .value, w)
  | .resumeSession session state =>
    let r := w.echo.resume session state
    (r.1.map fun _ => .done, { w with echo := r.2.1 })
  | .openStream session text => (.ok .done, { w with stream := .fresh session text })
  | .pullStream =>
    let r := w.echo.next w.stream
    (pulled r.2.2, { w with echo := r.1, stream := r.2.1 })
  | .closeStream => (.ok .done, { w with stream := .ended })
  | .getValue key => ((w.storage.get key).1.map .value, w)
  | .updateValue key value =>
    let r := w.storage.update key value
    (r.1.map fun _ => .done, { w with storage := r.2.1 })
  | .deleteValue key =>
    let r := w.storage.delete key
    (r.1.map fun _ => .done, { w with storage := r.2.1 })
  | .deliver _ => (.ok .done, w)

/-- The surroundings answer a call. -/
def Answers (w : Surroundings) (call : Call) (a : Except Fault Answer) (w' : Surroundings) : Prop :=
  w.answer ids call = (a, w')

/-! ## What is seen of a request -/

/-- What is seen of a request: its result, the messages that were delivered, and the value that is stored after it. -/
structure Observation where
  result : Except Fault Outcome
  delivered : List Outbound
  stored : Except Fault Json

/-- The messages that were delivered. -/
def delivered (dialogue : List (Call × Except Fault Answer)) : List Outbound :=
  dialogue.filterMap fun e =>
    match e.1 with
    | .deliver event => some event
    | _ => none

/-- Requests that are handled one after the other, each to its end. -/
inductive Performs : List Request → Moment Surroundings → List Observation → Moment Surroundings → Prop
  | nil (x : Moment Surroundings) : Performs [] x [] x
  | cons {r : Request} {rest : List Request} {x y : Moment Surroundings} {c : Coordinator} {w : Surroundings}
      {dialogue : List (Call × Except Fault Answer)} {result : Except Fault Outcome} {seen : List Observation} :
      Carries (Answers ids) (x.coordinator.begin r) x.outside dialogue c w result → Performs rest ⟨c, w⟩ seen y →
      Performs (r :: rest) x (⟨result, delivered dialogue, (w.storage.get c.shelf.key).1⟩ :: seen) y

variable {ids}

/-- A handler can run to its end in one way only. -/
theorem Carries.unique {t : Turn} {w w₁ w₂ : Surroundings} {d₁ d₂ : List (Call × Except Fault Answer)}
    {c₁ c₂ : Coordinator} {r₁ r₂ : Except Fault Outcome} (h₁ : Carries (Answers ids) t w d₁ c₁ w₁ r₁)
    (h₂ : Carries (Answers ids) t w d₂ c₂ w₂ r₂) : d₁ = d₂ ∧ c₁ = c₂ ∧ w₁ = w₂ ∧ r₁ = r₂ := by
  have hunique {w w' w'' : Surroundings} {call : Call} {a a' : Except Fault Answer} (ha : Answers ids w call a w')
      (ha' : Answers ids w call a' w'') : a = a' ∧ w' = w'' := Prod.mk.inj (ha.symm.trans ha')
  obtain ⟨t₁, rfl, hrun₁⟩ := h₁.runs
  obtain ⟨t₂, rfl, hrun₂⟩ := h₂.runs
  obtain ⟨rfl, rfl, rfl, rfl⟩ := Runs.unique (R := Answers ids) hunique hrun₁ hrun₂
  exact ⟨rfl, rfl, rfl, rfl⟩

/-- Requests can be handled in one way only. -/
theorem Performs.unique {requests : List Request} {x y₁ y₂ : Moment Surroundings} {seen₁ seen₂ : List Observation}
    (h₁ : Performs ids requests x seen₁ y₁) (h₂ : Performs ids requests x seen₂ y₂) : seen₁ = seen₂ ∧ y₁ = y₂ := by
  induction h₁ generalizing seen₂ with
  | nil => cases h₂; exact ⟨rfl, rfl⟩
  | cons hc _ ih =>
    cases h₂ with
    | cons hc' hrest' =>
      obtain ⟨rfl, rfl, rfl, rfl⟩ := hc.unique hc'
      obtain ⟨rfl, rfl⟩ := ih hrest'
      exact ⟨rfl, rfl⟩

/-! ## Runs of a handler -/

variable (ids)

/-- A handler runs from a turn to its end and delivers some messages. -/
def Leads (t : Turn) (w : Surroundings) (events : List Outbound) (c : Coordinator) (w' : Surroundings)
    (result : Except Fault Outcome) : Prop :=
  ∃ dialogue, Carries (Answers ids) t w dialogue c w' result ∧ delivered dialogue = events

variable {ids} {t : Turn} {w w' w'' : Surroundings} {events : List Outbound} {c : Coordinator}
  {result : Except Fault Outcome}

theorem Leads.finished (h : t.next = .finished result) : Leads ids t w [] t.coordinator w result :=
  ⟨[], .finished h, rfl⟩

/-- The handler gets an answer, and goes on. -/
theorem Leads.ask {call : Call} {pt : Point} {a : Except Fault Answer} (hn : t.next = .waiting call pt)
    (ha : w.answer ids call = (a, w')) (hcall : ∀ event, call ≠ .deliver event)
    (h : Leads ids (t.coordinator.resume a pt) w' events c w'' result) : Leads ids t w events c w'' result := by
  obtain ⟨dialogue, hc, rfl⟩ := h
  refine ⟨_, .waiting hn ha hc, ?_⟩
  cases call with
  | deliver event => exact absurd rfl (hcall event)
  | _ => rfl

/-- The surface takes a message, and the handler goes on. -/
theorem Leads.deliver {event : Outbound} {pt : Point} (hn : t.next = .waiting (.deliver event) pt)
    (h : Leads ids (t.coordinator.resume (.ok .done) pt) w events c w' result) :
    Leads ids t w (event :: events) c w' result := by
  obtain ⟨dialogue, hc, rfl⟩ := h
  exact ⟨_, .waiting hn rfl hc, rfl⟩

/-- A handler that runs to its end handles the first of some requests. -/
theorem Leads.performs {r : Request} {rest : List Request} {x y : Moment Surroundings} {seen : List Observation}
    (h : Leads ids (x.coordinator.begin r) x.outside events c w' result) (hrest : Performs ids rest ⟨c, w'⟩ seen y) :
    Performs ids (r :: rest) x (⟨result, events, (w'.storage.get c.shelf.key).1⟩ :: seen) y := by
  obtain ⟨dialogue, hc, rfl⟩ := h
  exact .cons hc hrest

theorem Leads.report (h : Leads ids t w events c w' result) (notices : List Notice) :
    Leads ids (t.report notices) w events c w' result := by
  obtain ⟨dialogue, hc, rfl⟩ := h
  refine ⟨dialogue, ?_, rfl⟩
  cases hc with
  | finished hn => exact .finished hn
  | waiting hn ha hrest => exact .waiting hn ha hrest

end

end ChatRelay.Coordinator
