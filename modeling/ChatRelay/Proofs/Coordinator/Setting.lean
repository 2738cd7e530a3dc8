import ChatRelay.Proofs.Coordinator.Calls
import Mathlib.Logic.Function.Basic

/-!
# Schedules of handlers on a store

The calls of the handlers on the store are carried out by the store: at any time after a handler has made its call the
store takes the call or looks up the value, and at any time after that, or when the call has failed, the handler learns
of it. All other answers come as they like.

- `Setting`: the handlers of a coordinator, the values in the store, and what the store has ready for the handlers;
- `Setting.step`, `Setting.run`: one deed and a schedule;
- `Setting.Change`: all that one deed can do (`Setting.step_change`);
- `Setting.asking_run`: whatever the store does, every handler asks for what belongs to its point.
-/

namespace ChatRelay.Coordinator

/-- The values of a store by their keys, null where there is none. -/
abbrev Values := String → Json

/-- What a store answers to a call, and its values after it. -/
def carryOut (store : Values) : Call → Option (Answer × Values)
  | .getValue key => some (.value (store key), store)
  | .updateValue key v => some (.done, Function.update store key v)
  | .deleteValue key => some (.done, Function.update store key .null)
  | _ => none

/-- Whether it is the store that a call is for. -/
def onStore : Call → Bool
  | .getValue _ => true
  | .updateValue _ _ => true
  | .deleteValue _ => true
  | _ => false

/-- The handlers of a coordinator with the store behind them. The store has answers ready for handlers whose calls it
has carried out. -/
structure Setting where
  scene : Scene
  store : Values
  ready : Nat → Option Answer

/-- What can happen next. -/
inductive Deed
  | begin (r : Request)
  /-- The store carries out the call that a handler waits for. -/
  | perform (handler : Nat)
  /-- A handler learns what has come of its call. Of a call on the store it learns that it has failed, or what the store
  has ready. -/
  | answer (handler : Nat) (a : Except Fault Answer)

/-- The call that a handler waits for. -/
def Scene.call? (s : Scene) (i : Nat) : Option Call :=
  match s.handlers[i]? with
  | some ⟨_, _, .waiting call _⟩ => some call
  | _ => none

/-- What a handler can be answered: that its call has failed, and otherwise what the store has ready for it if its call
is on the store, and anything if it is not. -/
def Fitting (call : Call) (ready : Option Answer) (a : Except Fault Answer) : Prop :=
  onStore call = true → ∀ b, a = .ok b → ready = some b

namespace Setting

/-- A coordinator that nothing was asked of, with a store. -/
def start (shelf : Shelf) (visible : Bool) (store : Values) : Setting := ⟨.start shelf visible, store, fun _ => none⟩

/-- What a handler is answered, if it can be answered. -/
def given (s : Setting) (i : Nat) (a : Except Fault Answer) : Option (Except Fault Answer) :=
  match s.scene.call? i with
  | some call =>
    if onStore call then
      match a with
      | .error f => some (.error f)
      | .ok _ => (s.ready i).map .ok
    else some a
  | none => none

/-- One deed. The store carries a call out once. -/
def step [Host] (s : Setting) : Deed → Setting
  | .begin r => { s with scene := s.scene.step (.begin r) }
  | .perform i =>
    match s.scene.call? i, s.ready i with
    | some call, none =>
      match carryOut s.store call with
      | some (a, store) => { s with store := store, ready := Function.update s.ready i (some a) }
      | none => s
    | _, _ => s
  | .answer i a =>
    match s.given i a with
    | some a => { s with scene := s.scene.step (.answer i a), ready := Function.update s.ready i none }
    | none => s

/-- A schedule. -/
def run [Host] (s : Setting) (deeds : List Deed) : Setting := deeds.foldl step s

/-! ## What one deed can do -/

/-- All that one deed can do. -/
inductive Change [Host] (s : Setting) : Deed → Setting → Prop
  | begin (r : Request) : Change s (.begin r) { s with scene := s.scene.step (.begin r) }
  /-- There is no such call, or nothing is ready. -/
  | idle (d : Deed) : Change s d s
  | perform (i : Nat) (r : Request) (d : List (Call × Except Fault Answer)) (call : Call) (pt : Point) (a : Answer)
      (store : Values) : s.scene.handlers[i]? = some ⟨r, d, .waiting call pt⟩ → s.ready i = none →
      carryOut s.store call = some (a, store) →
      Change s (.perform i) { s with store := store, ready := Function.update s.ready i (some a) }
  | answer (i : Nat) (a a' : Except Fault Answer) (r : Request) (d : List (Call × Except Fault Answer)) (call : Call)
      (pt : Point) : s.scene.handlers[i]? = some ⟨r, d, .waiting call pt⟩ → Fitting call (s.ready i) a' →
      Change s (.answer i a)
        { s with scene := s.scene.step (.answer i a'), ready := Function.update s.ready i none }

theorem call_eq_some {s : Scene} {i : Nat} {call : Call} (h : s.call? i = some call) :
    ∃ r d pt, s.handlers[i]? = some ⟨r, d, .waiting call pt⟩ := by
  rcases hi : s.handlers[i]? with _ | ⟨r, d, result | ⟨call', pt⟩⟩
  · simp [Scene.call?, hi] at h
  · simp [Scene.call?, hi] at h
  · obtain rfl : call' = call := by simpa [Scene.call?, hi] using h
    exact ⟨r, d, pt, rfl⟩

theorem fitting_of_given {s : Setting} {i : Nat} {a a' : Except Fault Answer} {call : Call}
    (hc : s.scene.call? i = some call) (h : s.given i a = some a') : Fitting call (s.ready i) a' := by
  rintro hs b rfl
  cases a with
  | error f => simp [given, hc, hs] at h
  | ok a =>
    obtain ⟨b', hb, he⟩ : ∃ b', s.ready i = some b' ∧ (.ok b' : Except Fault Answer) = .ok b := by
      simpa [given, hc, hs] using h
    rw [hb, Except.ok.inj he]

variable [Host]

theorem step_change (s : Setting) (d : Deed) : Change s d (s.step d) := by
  cases d with
  | begin r => exact .begin r
  | perform i =>
    simp only [step]
    split
    · next call hc hr =>
      obtain ⟨r, d, pt, hi⟩ := call_eq_some hc
      cases hp : carryOut s.store call with
      | none => exact .idle _
      | some out => exact .perform i r d call pt out.1 out.2 hi hr hp
    · exact .idle _
  | answer i a =>
    cases hg : s.given i a with
    | none =>
      simp only [step, hg]
      exact .idle _
    | some a' =>
      cases hc : s.scene.call? i with
      | none => simp [given, hc] at hg
      | some call =>
        obtain ⟨r, d, pt, hi⟩ := call_eq_some hc
        simp only [step, hg]
        exact .answer i a a' r d call pt hi (fitting_of_given hc hg)

/-- What every deed of a schedule keeps, the schedule keeps. -/
theorem deeds_induction {P : Setting → Prop} {deeds : List Deed}
    (hs : ∀ {s d s'}, d ∈ deeds → Change s d s' → P s → P s') {s : Setting} (h : P s) : P (s.run deeds) := by
  induction deeds generalizing s with
  | nil => exact h
  | cons d deeds ih =>
    exact ih (fun hd => hs (List.mem_cons_of_mem d hd)) (hs List.mem_cons_self (step_change s d) h)

/-- The handlers do what belongs to their points. -/
theorem asking_change {shelf : Shelf} {s s' : Setting} {d : Deed} (hs : Change s d s') (h : s.scene.Asking shelf) :
    s'.scene.Asking shelf := by
  cases hs with
  | begin r => exact Scene.asking_shift (Scene.step_shift s.scene (.begin r)) h
  | idle => exact h
  | perform => exact h
  | answer i a a' => exact Scene.asking_shift (Scene.step_shift s.scene (.answer i a')) h

theorem asking_run (shelf : Shelf) (visible : Bool) (store : Values) (deeds : List Deed) :
    ((start shelf visible store).run deeds).scene.Asking shelf :=
  deeds_induction (P := fun s => s.scene.Asking shelf) (fun _ => asking_change) (Scene.asking_start shelf visible)

/-! ## One handler goes on -/

/-- A handler waits at a point for the answer to a call. -/
def Waits (s : Setting) (i : Nat) (call : Call) (pt : Point) : Prop :=
  ∃ r d, s.scene.handlers[i]? = some ⟨r, d, .waiting call pt⟩

/-- A handler has taken a turn, and the store is as it was. -/
structure Reached (s s' : Setting) (i : Nat) (turn : Turn) : Prop where
  coordinator : s'.scene.coordinator = turn.coordinator
  store : s'.store = s.store
  ready : s'.ready i = none
  waits : ∀ call pt, turn.next = .waiting call pt → s'.Waits i call pt

theorem reached_answer {s : Setting} {i : Nat} {call : Call} {pt : Point} (hw : s.Waits i call pt)
    {a a' : Except Fault Answer} (hg : s.given i a = some a') :
    Reached s (s.step (.answer i a)) i (s.scene.coordinator.resume a' pt) := by
  obtain ⟨r, d, hi⟩ := hw
  have hlt : i < s.scene.handlers.length := (List.getElem?_eq_some_iff.1 hi).1
  have hs : s.step (.answer i a) =
      { s with scene := s.scene.step (.answer i a'), ready := Function.update s.ready i none } := by
    simp only [step, hg]
  rw [hs, Scene.step_answer hi]
  refine ⟨rfl, rfl, by simp, fun call' pt' hn => ⟨r, d ++ [(call, a')], ?_⟩⟩
  simp [hlt, hn]

/-- A handler learns that its call has failed. -/
theorem reached_error {s : Setting} {i : Nat} {call : Call} {pt : Point} (hw : s.Waits i call pt) (f : Fault) :
    Reached s (s.step (.answer i (.error f))) i (s.scene.coordinator.resume (.error f) pt) := by
  refine reached_answer hw ?_
  obtain ⟨r, d, hi⟩ := hw
  cases ho : onStore call <;> simp [given, Scene.call?, hi, ho]

/-- A handler is answered by another than the store. -/
theorem reached_ok {s : Setting} {i : Nat} {call : Call} {pt : Point} (hw : s.Waits i call pt)
    (ho : onStore call = false) (a : Answer) :
    Reached s (s.step (.answer i (.ok a))) i (s.scene.coordinator.resume (.ok a) pt) := by
  refine reached_answer hw ?_
  obtain ⟨r, d, hi⟩ := hw
  simp [given, Scene.call?, hi, ho]

/-- A handler learns what the store has ready. -/
theorem reached_ready {s : Setting} {i : Nat} {call : Call} {pt : Point} (hw : s.Waits i call pt)
    (ho : onStore call = true) {a : Answer} (hr : s.ready i = some a) :
    Reached s (s.step (.answer i (.ok .done))) i (s.scene.coordinator.resume (.ok a) pt) := by
  refine reached_answer hw ?_
  obtain ⟨r, d, hi⟩ := hw
  simp [given, Scene.call?, hi, ho, hr]

/-- The store carries out the call of a handler. -/
theorem step_perform {s : Setting} {i : Nat} {call : Call} {pt : Point} (hw : s.Waits i call pt)
    (hr : s.ready i = none) {a : Answer} {store : Values} (hp : carryOut s.store call = some (a, store)) :
    s.step (.perform i) = { s with store := store, ready := Function.update s.ready i (some a) } := by
  obtain ⟨r, d, hi⟩ := hw
  simp only [step, Scene.call?, hi, hr, hp]

end Setting

end ChatRelay.Coordinator
