import ChatRelay.Routine
import Mathlib.Data.List.Basic

/-!
# Schedules

Handlers of requests that run on one state in any order: every list of moves is a schedule. A request begins a handler,
and when the handler waits for an answer, the coming of the answer is a move of its own, which may come at any time and
bring anything.

- `Scene`: the state with all handlers that were begun on it, each with the answers it was given;
- `step`, `run`, `upTo`: one move, a schedule, and a schedule as far as its first moves, made of the functions that
  begin a handler and resume it;
- `Shift`: all that one move can do (`step_shift`), and with it what every move keeps (`run_induction`,
  `upTo_induction`), also of the handlers one by one (`forall_shift`).
-/

namespace ChatRelay.Schedule

/-- A request that is being handled or was: the calls that were answered, in order, and how its handler goes on. -/
structure Handler (ρ κ α π ω : Type) where
  request : ρ
  dialogue : List (κ × Except Fault α)
  status : Next κ π ω

/-- The calls of a handler, with the one that it waits for. -/
def Handler.calls {ρ κ α π ω : Type} (h : Handler ρ κ α π ω) : List κ :=
  h.dialogue.map (·.1) ++
    match h.status with
    | .waiting call _ => [call]
    | .finished _ => []

/-- A handler has come to its end. -/
def Handler.Finished {ρ κ α π ω : Type} (h : Handler ρ κ α π ω) : Prop := ∃ result, h.status = .finished result

instance {ρ κ α π ω : Type} (h : Handler ρ κ α π ω) : Decidable h.Finished :=
  match hs : h.status with
  | .finished result => isTrue ⟨result, hs⟩
  | .waiting _ _ => isFalse fun ⟨_, hr⟩ => nomatch hs.symm.trans hr

/-- A state with its handlers, in the order in which they were begun. -/
structure Scene (σ ρ κ α π ω : Type) where
  owner : σ
  handlers : List (Handler ρ κ α π ω)

/-- What can happen next. -/
inductive Move (ρ α : Type)
  | begin (r : ρ)
  /-- The call is answered that a handler waits for. -/
  | answer (handler : Nat) (a : Except Fault α)

section

variable {σ τ ρ κ α π ω : Type} (begin : σ → ρ → τ) (resume : σ → Except Fault α → π → τ) (state : τ → σ)
  (next : τ → Next κ π ω)

/-- The turn that a move takes, if it does anything. A handler that waits for nothing takes no answer. -/
def turn? (s : Scene σ ρ κ α π ω) : Move ρ α → Option τ
  | .begin r => some (begin s.owner r)
  | .answer i a =>
    match s.handlers[i]? with
    | some ⟨_, _, .waiting _ pt⟩ => some (resume s.owner a pt)
    | _ => none

/-- One move. -/
def step (s : Scene σ ρ κ α π ω) : Move ρ α → Scene σ ρ κ α π ω
  | .begin r => ⟨state (begin s.owner r), s.handlers ++ [⟨r, [], next (begin s.owner r)⟩]⟩
  | .answer i a =>
    match s.handlers[i]? with
    | some ⟨r, d, .waiting call pt⟩ =>
      ⟨state (resume s.owner a pt), s.handlers.set i ⟨r, d ++ [(call, a)], next (resume s.owner a pt)⟩⟩
    | _ => s

/-- A schedule. -/
def run (s : Scene σ ρ κ α π ω) (moves : List (Move ρ α)) : Scene σ ρ κ α π ω :=
  moves.foldl (step begin resume state next) s

/-- A schedule as far as its first moves. -/
def upTo (s : Scene σ ρ κ α π ω) (moves : List (Move ρ α)) (k : Nat) : Scene σ ρ κ α π ω :=
  run begin resume state next s (moves.take k)

/-- All that one move can do. -/
inductive Shift (s : Scene σ ρ κ α π ω) : Move ρ α → Scene σ ρ κ α π ω → Prop
  | begin (r : ρ) : Shift s (.begin r)
      ⟨state (begin s.owner r), s.handlers ++ [⟨r, [], next (begin s.owner r)⟩]⟩
  /-- There is no such handler, or it is finished. -/
  | idle (i : Nat) (a : Except Fault α) : (∀ r d call pt, s.handlers[i]? ≠ some ⟨r, d, .waiting call pt⟩) →
      Shift s (.answer i a) s
  | answer (i : Nat) (a : Except Fault α) (r : ρ) (d : List (κ × Except Fault α)) (call : κ) (pt : π) :
      s.handlers[i]? = some ⟨r, d, .waiting call pt⟩ → Shift s (.answer i a)
      ⟨state (resume s.owner a pt), s.handlers.set i ⟨r, d ++ [(call, a)], next (resume s.owner a pt)⟩⟩

variable {begin resume state next}

/-! ## One move -/

section

variable {s : Scene σ ρ κ α π ω} {i : Nat} {r : ρ} {d : List (κ × Except Fault α)} {call : κ} {pt : π}

/-- The step of a handler that is answered. -/
theorem step_answer (h : s.handlers[i]? = some ⟨r, d, .waiting call pt⟩) (a : Except Fault α) :
    step begin resume state next s (.answer i a) =
      ⟨state (resume s.owner a pt), s.handlers.set i ⟨r, d ++ [(call, a)], next (resume s.owner a pt)⟩⟩ := by
  simp only [step, h]

/-- The turn of a handler that is answered. -/
theorem turn?_answer (h : s.handlers[i]? = some ⟨r, d, .waiting call pt⟩) (a : Except Fault α) :
    turn? begin resume s (.answer i a) = some (resume s.owner a pt) := by
  simp only [turn?, h]

/-- Where no handler waits, an answer does nothing. -/
theorem idle_answer (h : ∀ r d call pt, s.handlers[i]? ≠ some ⟨r, d, .waiting call pt⟩) (a : Except Fault α) :
    turn? begin resume s (.answer i a) = none ∧ step begin resume state next s (.answer i a) = s := by
  rcases hi : s.handlers[i]? with _ | ⟨r, d, result | ⟨call, pt⟩⟩
  · simp only [turn?, step, hi, and_self]
  · simp only [turn?, step, hi, and_self]
  · exact absurd hi (h r d call pt)

end

/-- A turn is one of a handler that begins, or of one that is answered. -/
theorem of_turn? {s : Scene σ ρ κ α π ω} {m : Move ρ α} {t : τ} (h : turn? begin resume s m = some t) :
    (∃ r, m = .begin r ∧ t = begin s.owner r) ∨ ∃ i a r d call pt, m = .answer i a ∧
      s.handlers[i]? = some ⟨r, d, .waiting call pt⟩ ∧ t = resume s.owner a pt := by
  cases m with
  | begin r => exact .inl ⟨r, rfl, (Option.some.inj h).symm⟩
  | answer i a =>
    rcases hi : s.handlers[i]? with _ | ⟨r, d, result | ⟨call, pt⟩⟩
    · simp [turn?, hi] at h
    · simp [turn?, hi] at h
    · rw [turn?_answer hi] at h
      exact .inr ⟨i, a, r, d, call, pt, rfl, hi, (Option.some.inj h).symm⟩

/-- A turn leaves its state. -/
theorem owner_step {s : Scene σ ρ κ α π ω} {m : Move ρ α} {t : τ} (h : turn? begin resume s m = some t) :
    (step begin resume state next s m).owner = state t := by
  rcases of_turn? h with ⟨r, rfl, rfl⟩ | ⟨i, a, r, d, call, pt, rfl, hi, rfl⟩
  · rfl
  · rw [step_answer hi]

/-- One move does one of the things of `Shift`. -/
theorem step_shift (s : Scene σ ρ κ α π ω) (m : Move ρ α) :
    Shift begin resume state next s m (step begin resume state next s m) := by
  cases m with
  | begin r => exact .begin r
  | answer i a =>
    rcases hi : s.handlers[i]? with _ | ⟨r, d, result | ⟨call, pt⟩⟩
    · simpa only [step, hi] using Shift.idle i a (by simp [hi])
    · simpa only [step, hi] using Shift.idle i a (by simp [hi])
    · simpa only [step, hi] using Shift.answer i a r d call pt hi

/-! ## A handler that waits -/

section

variable {r : ρ} {d : List (κ × Except Fault α)} {call : κ} {pt : π}

theorem Handler.unfinished : ¬(⟨r, d, .waiting call pt⟩ : Handler ρ κ α π ω).Finished := by
  rintro ⟨result, hresult⟩
  cases hresult

theorem Handler.mem_calls_waiting : call ∈ (⟨r, d, .waiting call pt⟩ : Handler ρ κ α π ω).calls :=
  List.mem_append_right _ (List.mem_singleton_self _)

/-- What a handler has called for it has called for after an answer, too. -/
theorem Handler.mem_calls_answered {call' : κ} (h : call' ∈ (⟨r, d, .waiting call pt⟩ : Handler ρ κ α π ω).calls)
    (a : Except Fault α) (next : Next κ π ω) :
    call' ∈ (⟨r, d ++ [(call, a)], next⟩ : Handler ρ κ α π ω).calls := by
  simp only [Handler.calls, List.mem_append, List.mem_singleton, List.map_append, List.map_cons, List.map_nil] at h ⊢
  exact .inl h

end

/-! ## The handlers after a move -/

/-- A handler after a request is one that was there before, or the one that has begun. -/
theorem handler_begin {η : Type} {hs : List η} {new h : η} {i : Nat} (hi : (hs ++ [new])[i]? = some h) :
    hs[i]? = some h ∨ hs.length ≤ i ∧ new = h := by
  rcases Nat.lt_or_ge i hs.length with hlt | hge
  · exact .inl ((List.getElem?_append_left hlt).symm.trans hi)
  · have hmem := List.mem_of_getElem? ((List.getElem?_append_right hge).symm.trans hi)
    exact .inr ⟨hge, (List.mem_singleton.1 hmem).symm⟩

/-- A handler after an answer is another one as it was before, or the one that was answered. -/
theorem handler_answer {η : Type} {hs : List η} {new h : η} {i j : Nat} (hj : (hs.set i new)[j]? = some h) :
    j ≠ i ∧ hs[j]? = some h ∨ j = i ∧ new = h := by
  by_cases hij : j = i
  · subst hij
    obtain ⟨hlt, he⟩ := List.getElem?_eq_some_iff.1 hj
    exact .inr ⟨rfl, (List.getElem_set_self hlt).symm.trans he⟩
  · exact .inl ⟨hij, (List.getElem?_set_ne (Ne.symm hij)).symm.trans hj⟩

/-- What holds of every handler holds of every one after a move, if it holds of the one that begins and is kept by an
answer. -/
theorem forall_shift {P : Handler ρ κ α π ω → Prop} {s s' : Scene σ ρ κ α π ω} {m : Move ρ α}
    (hs : Shift begin resume state next s m s') (hbegin : ∀ r, m = .begin r → P ⟨r, [], next (begin s.owner r)⟩)
    (hanswer : ∀ a r d call pt, P ⟨r, d, .waiting call pt⟩ → P ⟨r, d ++ [(call, a)], next (resume s.owner a pt)⟩)
    (h : ∀ h ∈ s.handlers, P h) : ∀ h ∈ s'.handlers, P h := by
  cases hs with
  | idle => exact h
  | begin r =>
    intro h' hh
    rcases List.mem_append.1 hh with hh | hh
    · exact h h' hh
    · obtain rfl := List.mem_singleton.1 hh
      exact hbegin r rfl
  | answer i a r d call pt hi =>
    intro h' hh
    rcases List.mem_or_eq_of_mem_set hh with hh | rfl
    · exact h h' hh
    · exact hanswer a r d call pt (h _ (List.mem_of_getElem? hi))

/-- The requests of the handlers after an answer. -/
theorem requests_answer {hs : List (Handler ρ κ α π ω)} {i : Nat} {r : ρ} {d d' : List (κ × Except Fault α)}
    {status status' : Next κ π ω} (hi : hs[i]? = some ⟨r, d, status⟩) :
    (hs.set i ⟨r, d', status'⟩).map (·.request) = hs.map (·.request) := by
  apply List.ext_getElem?
  intro j
  by_cases hij : i = j
  · subst hij
    simp [List.getElem?_set_self', hi]
  · simp [List.getElem?_set_ne hij]

/-! ## Runs -/

/-- What every move keeps, every schedule keeps. -/
theorem run_induction {P : Scene σ ρ κ α π ω → Prop}
    (hs : ∀ {s m s'}, Shift begin resume state next s m s' → P s → P s') {s : Scene σ ρ κ α π ω} (h : P s)
    (moves : List (Move ρ α)) : P (run begin resume state next s moves) := by
  induction moves generalizing s with
  | nil => exact h
  | cons m moves ih => exact ih (hs (step_shift s m) h)

section

variable {s : Scene σ ρ κ α π ω} {moves : List (Move ρ α)} {k : Nat}

theorem upTo_succ {m : Move ρ α} (h : moves[k]? = some m) :
    upTo begin resume state next s moves (k + 1) =
      step begin resume state next (upTo begin resume state next s moves k) m := by
  simp only [upTo, run, List.take_add_one, h, Option.toList_some, List.foldl_append, List.foldl_cons, List.foldl_nil]

theorem upTo_past (h : moves[k]? = none) :
    upTo begin resume state next s moves (k + 1) = upTo begin resume state next s moves k := by
  simp only [upTo, List.take_add_one, h, Option.toList_none, List.append_nil]

theorem upTo_of_length_le (h : moves.length ≤ k) :
    upTo begin resume state next s moves k = upTo begin resume state next s moves moves.length := by
  simp only [upTo, List.take_of_length_le h, List.take_length]

/-- What every move of a schedule keeps holds at every moment. -/
theorem upTo_induction {P : Scene σ ρ κ α π ω → Prop} (hstart : P s)
    (hstep : ∀ {s m s'}, m ∈ moves → Shift begin resume state next s m s' → P s → P s') (k : Nat) :
    P (upTo begin resume state next s moves k) := by
  induction k with
  | zero => exact hstart
  | succ k ih =>
    rcases hm : moves[k]? with _ | m
    · rw [upTo_past hm]
      exact ih
    · rw [upTo_succ hm]
      exact hstep (List.mem_of_getElem? hm) (step_shift _ m) ih

/-- A handler handles a request of the schedule. -/
theorem request_mem {first : σ} {h : Handler ρ κ α π ω}
    (hh : h ∈ (upTo begin resume state next ⟨first, []⟩ moves k).handlers) : .begin h.request ∈ moves := by
  suffices hall : ∀ h ∈ (upTo begin resume state next ⟨first, []⟩ moves k).handlers, .begin h.request ∈ moves from
    hall h hh
  have hstart : ∀ h ∈ (Scene.mk first [] : Scene σ ρ κ α π ω).handlers, Move.begin h.request ∈ moves := by simp
  refine upTo_induction (P := fun s => ∀ h ∈ s.handlers, .begin h.request ∈ moves) hstart (fun hm hs hall => ?_) k
  exact forall_shift hs (fun r hr => hr ▸ hm) (fun a r d call pt h => h) hall

/-- In a schedule without a request no handler handles it. -/
theorem request_ne {first : σ} {r : ρ} (hnever : ∀ m ∈ moves, m ≠ .begin r) :
    ∀ h ∈ (upTo begin resume state next ⟨first, []⟩ moves k).handlers, h.request ≠ r := by
  rintro h hh rfl
  exact hnever _ (request_mem hh) rfl

end

end

end ChatRelay.Schedule
