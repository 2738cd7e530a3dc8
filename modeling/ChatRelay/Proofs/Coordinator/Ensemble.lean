import ChatRelay.Proofs.Coordinator.Binding
import ChatRelay.Proofs.Coordinator.Cut
import ChatRelay.Proofs.Coordinator.Owing
import ChatRelay.Proofs.Coordinator.Play
import ChatRelay.Proofs.Coordinator.Response

/-!
# Handlers of an echo agent in any order

Every call of a handler may take its time: a handler that waits goes on whenever it likes, the store carries a call out
whenever it likes or lets it fail, and the surface takes every message. What the handlers share is the coordinator, the
store and the echo agent.

- `Ensemble`: the handlers with the store and the agent, and the schedule of the scene so far;
- `Ensemble.step`, `Ensemble.run`: one move and a schedule; `Ensemble.Change` is all that one move can do
  (`Ensemble.step_change`);
- `Ensemble.Orderly`: a tab is opened once, and prompted only when what was asked for before in this tab is over;
- `Ensemble.Backed`: the schedule of the scene, calm handlers, and a store with nothing in it but snapshots of tabs
  that are bound, so that nothing is ever resumed (`Ensemble.backed_change`);
- `Ensemble.Effect`: what an answer does to the agent and to the tabs (`Ensemble.effect_of_answerable`).
-/

namespace ChatRelay.Coordinator

/-! ## What a request is about -/

/-- What a request asks for, if it is a message that asks for something. -/
def Request.event? : Request → Option Inbound
  | .inbound m => (Inbound.ofJson m).toOption
  | _ => none

theorem Request.event?_eq_some {r : Request} {e : Inbound} : r.event? = some e ↔ r.Asks e := by
  constructor
  · intro h
    cases r with
    | inbound m =>
      cases hm : Inbound.ofJson m with
      | error f => simp [Request.event?, hm, Except.toOption] at h
      | ok e' =>
        obtain rfl : e' = e := by simpa [Request.event?, hm, Except.toOption] using h
        exact ⟨m, rfl, hm⟩
    | _ => cases h
  · rintro ⟨m, rfl, hm⟩
    simp [Request.event?, hm, Except.toOption]

/-- The tab that a request opens. -/
def Request.opens? (r : Request) : Option String :=
  match r.event? with
  | some (.newTab tab) => some tab
  | _ => none

/-- The tab that a request prompts. -/
def Request.prompts? (r : Request) : Option String :=
  match r.event? with
  | some (.prompt tab _ _) => some tab
  | _ => none

theorem Request.opens?_eq_some {r : Request} {tab : String} : r.opens? = some tab ↔ r.Asks (.newTab tab) := by
  rw [← Request.event?_eq_some, Request.opens?]
  split <;> simp_all

theorem Request.prompts?_eq_some {r : Request} {tab : String} :
    r.prompts? = some tab ↔ ∃ message text, r.Asks (.prompt tab message text) := by
  simp only [← Request.event?_eq_some, Request.prompts?]
  split <;> simp_all

/-! ## The ensemble -/

/-- The handlers of a coordinator with the store and the agent, what the store has ready for the handlers, and the
schedule of the scene so far. -/
structure Ensemble extends Play where
  ready : Nat → Option Answer
  past : List Move

namespace Ensemble

/-- A coordinator with an empty store and an agent that has no sessions. -/
def start (shelf : Shelf) (visible : Bool) (delay : Delay) : Ensemble :=
  ⟨.start shelf visible delay, fun _ => none, []⟩

/-- What can happen next. -/
inductive Move
  | begin (r : Request)
  /-- The store carries out the call that a handler waits for. -/
  | perform (handler : Nat)
  /-- The call on the store that a handler waits for fails. -/
  | refuse (handler : Nat) (f : Fault)
  /-- A handler goes on, or its pause before a chunk is over. -/
  | goOn (handler : Nat)

/-- A request has begun. -/
def begun [Host] (s : Ensemble) (r : Request) : Ensemble :=
  { s with scene := s.scene.step (.begin r), past := s.past ++ [.begin r] }

/-- A handler was answered, and the play is another one. -/
def answered [Host] (s : Ensemble) (i : Nat) (a : Except Fault Answer) (p : Play) : Ensemble where
  toPlay := { p with scene := s.scene.step (.answer i a) }
  ready := Function.update s.ready i none
  past := s.past ++ [.answer i a]

section

variable (ids : Nat → String)

section

variable [Host]

/-- One move. A call on the store is carried out once, and what has come of it is learnt later. -/
def step (s : Ensemble) : Move → Ensemble
  | .begin r => s.begun r
  | .perform i =>
    match s.scene.call? i, s.ready i with
    | some call, none =>
      match carryOut s.store call with
      | some (a, store) => { s with store := store, ready := Function.update s.ready i (some a) }
      | none => s
    | _, _ => s
  | .refuse i f =>
    match s.scene.call? i with
    | some call => if onStore call then s.answered i (.error f) s.toPlay else s
    | none => s
  | .goOn i =>
    match s.scene.call? i with
    | some call =>
      if onStore call then
        match s.ready i with
        | some a => s.answered i (.ok a) s.toPlay
        | none => s
      else
        match s.toPlay.reply ids i call with
        | (some a, p) => s.answered i a p
        | (none, p) => { s with toPlay := p }
    | none => s

/-- A schedule. -/
def run (s : Ensemble) (moves : List Move) : Ensemble := moves.foldl (step ids) s

/-! ## Orderly schedules -/

/-- A request that is in order: no shutdown, no second opening of a tab, and no prompt before the tab is open and what
was prompted there before is over. -/
structure Admits (s : Ensemble) (r : Request) : Prop where
  stays : r.closes = false
  once : ∀ tab ∈ r.opens?, ∀ h ∈ s.scene.handlers, h.request.opens? ≠ some tab
  opened : ∀ tab ∈ r.prompts?, ∃ h ∈ s.scene.handlers, h.request.opens? = some tab
  settled : ∀ tab ∈ r.prompts?, ∀ h ∈ s.scene.handlers,
    h.request.opens? = some tab ∨ h.request.prompts? = some tab → h.Finished

instance (s : Ensemble) (r : Request) : Decidable (s.Admits r) :=
  decidable_of_iff
    (r.closes = false ∧ (∀ tab ∈ r.opens?, ∀ h ∈ s.scene.handlers, h.request.opens? ≠ some tab) ∧
      (∀ tab ∈ r.prompts?, ∃ h ∈ s.scene.handlers, h.request.opens? = some tab) ∧
      ∀ tab ∈ r.prompts?, ∀ h ∈ s.scene.handlers,
        h.request.opens? = some tab ∨ h.request.prompts? = some tab → h.Finished)
    ⟨fun ⟨h₁, h₂, h₃, h₄⟩ => ⟨h₁, h₂, h₃, h₄⟩, fun h => ⟨h.stays, h.once, h.opened, h.settled⟩⟩

/-- Every request of a schedule is in order when it comes. -/
def Orderly (s : Ensemble) : List Move → Prop
  | [] => True
  | .begin r :: moves => s.Admits r ∧ (s.step ids (.begin r)).Orderly moves
  | m :: moves => (s.step ids m).Orderly moves

instance Orderly.decidable : ∀ (s : Ensemble) (moves : List Move), Decidable (s.Orderly ids moves)
  | _, [] => .isTrue trivial
  | s, .begin r :: moves =>
    have := decidable (s.step ids (.begin r)) moves
    inferInstanceAs (Decidable (s.Admits r ∧ (s.step ids (.begin r)).Orderly ids moves))
  | s, .perform i :: moves => decidable (s.step ids (.perform i)) moves
  | s, .refuse i f :: moves => decidable (s.step ids (.refuse i f)) moves
  | s, .goOn i :: moves => decidable (s.step ids (.goOn i)) moves

/-! ## What one move can do -/

/-- What a handler can be answered, and the play after it. -/
inductive Answerable (s : Ensemble) (i : Nat) : Call → Except Fault Answer → Play → Prop
  /-- The call was on the store: it has failed, or the store has something ready. -/
  | stored {call : Call} {a : Except Fault Answer} : onStore call = true → (∀ b, a = .ok b → s.ready i = some b) →
      Answerable s i call a s.toPlay
  | replied {call : Call} {a : Except Fault Answer} {p : Play} : onStore call = false →
      s.toPlay.reply ids i call = (some a, p) → Answerable s i call a p

/-- All that one move can do. -/
inductive Change (s : Ensemble) : Move → Ensemble → Prop
  /-- There is no such call, or nothing is ready. -/
  | idle (m : Move) : (∀ r, m ≠ .begin r) → Change s m s
  | begin (r : Request) : Change s (.begin r) (s.begun r)
  | perform (i : Nat) (r : Request) (d : List (Call × Except Fault Answer)) (call : Call) (pt : Point) (a : Answer)
      (store : Values) : s.scene.handlers[i]? = some ⟨r, d, .waiting call pt⟩ →
      carryOut s.store call = some (a, store) →
      Change s (.perform i) { s with store := store, ready := Function.update s.ready i (some a) }
  /-- The pause before a chunk begins. -/
  | pause (i : Nat) (stream : Echo.Stream) : s.echo.pull (s.streams i) = (s.echo, stream, .pause) →
      Change s (.goOn i) { s with streams := Function.update s.streams i stream }
  | answer (m : Move) (i : Nat) (r : Request) (d : List (Call × Except Fault Answer)) (call : Call) (pt : Point)
      (a : Except Fault Answer) (p : Play) : (∀ r, m ≠ .begin r) →
      s.scene.handlers[i]? = some ⟨r, d, .waiting call pt⟩ → Answerable ids s i call a p →
      Change s m (s.answered i a p)

end

/-- Only pulling a response can lead to a pause. -/
theorem pause_of_reply {s : Play} {i : Nat} {call : Call} {p : Play} (h : s.reply ids i call = (none, p)) :
    ∃ stream, s.echo.pull (s.streams i) = (s.echo, stream, .pause) ∧
      p = { s with streams := Function.update s.streams i stream } := by
  unfold Play.reply at h
  split at h
  case h_5 =>
    dsimp only at h
    split at h
    · next hpause =>
      obtain rfl := (Prod.mk.inj h).2
      rcases Echo.pull_sessions s.echo (s.streams i) with hsame | ⟨hover, -⟩
      · rw [hsame]
        exact ⟨_, Prod.ext hsame (Prod.ext rfl hpause), rfl⟩
      · rw [hpause] at hover
        cases hover
    · cases h
  case h_7 => split at h <;> cases h
  all_goals cases h

theorem step_change [Host] (s : Ensemble) (m : Move) : Change ids s m (s.step ids m) := by
  cases m with
  | begin r => exact .begin r
  | perform i =>
    simp only [step]
    split
    · next call hcall hready =>
      obtain ⟨r, d, pt, hi⟩ := Setting.call_eq_some hcall
      split
      · next a store hout => exact .perform i r d call pt a store hi hout
      · exact .idle _ (by simp)
    · exact .idle _ (by simp)
  | refuse i f =>
    simp only [step]
    split
    · next call hcall =>
      obtain ⟨r, d, pt, hi⟩ := Setting.call_eq_some hcall
      split
      · next hstore => exact .answer _ i r d call pt _ _ (by simp) hi (.stored hstore (by simp))
      · exact .idle _ (by simp)
    · exact .idle _ (by simp)
  | goOn i =>
    simp only [step]
    split
    · next call hcall =>
      obtain ⟨r, d, pt, hi⟩ := Setting.call_eq_some hcall
      split
      · next hstore =>
        split
        · next a hready => exact .answer _ i r d call pt _ _ (by simp) hi (.stored hstore (by simp [hready]))
        · exact .idle _ (by simp)
      · next hother =>
        split
        · next a p hreply =>
          exact .answer _ i r d call pt a p (by simp) hi (.replied (by simpa using hother) hreply)
        · next p hreply =>
          obtain ⟨stream, hpause, rfl⟩ := pause_of_reply ids hreply
          exact .pause i stream hpause
    · exact .idle _ (by simp)

/-- What every move of an orderly schedule keeps, the schedule keeps. -/
theorem orderly_induction [Host] {P : Ensemble → Prop}
    (hs : ∀ {s m s'}, Change ids s m s' → (∀ r, m = .begin r → s.Admits r) → P s → P s') {s : Ensemble} (h : P s)
    {moves : List Move} (horderly : s.Orderly ids moves) : P (s.run ids moves) := by
  induction moves generalizing s with
  | nil => exact h
  | cons m moves ih =>
    have hchange := step_change ids s m
    cases m with
    | begin r => exact ih (hs hchange (fun r' hr => Move.begin.inj hr ▸ horderly.1) h) horderly.2
    | _ => exact ih (hs hchange (fun r hr => nomatch hr) h) horderly

end

end Ensemble

/-! ## What the store holds -/

/-- A value that can be in the store: none, or one that a handler has asked it to take. -/
def Scene.Written (s : Scene) (v : Json) : Prop :=
  v = .null ∨ ∃ h ∈ s.handlers, ∃ key, Call.updateValue key v ∈ h.calls

theorem Scene.written_shift [Host] {s s' : Scene} {m : Move} (hs : Shift s m s') {v : Json} (h : s.Written v) :
    s'.Written v := by
  refine h.imp_right ?_
  rintro ⟨h, hmem, key, hcall⟩
  cases hs with
  | begin r => exact ⟨h, List.mem_append_left _ hmem, key, hcall⟩
  | idle => exact ⟨h, hmem, key, hcall⟩
  | answer i a r d call pt hi =>
    obtain ⟨j, hj⟩ := List.mem_iff_getElem?.1 hmem
    have hlt := (List.getElem?_eq_some_iff.1 hi).1
    by_cases hij : i = j
    · subst hij
      obtain rfl := Option.some.inj (hi.symm.trans hj)
      exact ⟨_, List.mem_set hlt _, key, Schedule.Handler.mem_calls_answered hcall a _⟩
    · exact ⟨h, List.mem_of_getElem? ((List.getElem?_set_ne hij).trans hj), key, hcall⟩

/-- A restore begins with reading the stored value. -/
theorem restoring_begin [Host] {c : Coordinator} {r : Request} {call : Call} {pt : Restore.Point}
    (h : (c.begin r).next = .waiting call (.restoring pt)) : pt = .reading := by
  obtain ⟨m, rfl, hm⟩ : r.Asks .requestSavedState := serves_begin c r call _ h
  simp only [begin, beginInbound, hm] at h
  split at h <;> cases h
  rfl

/-- The handler of a request for the saved state is in its restore, or tells what came of it. -/
theorem Point.Serves.restores {pt : Point} {r : Request} (h : pt.Serves r) (hr : r.Asks .requestSavedState) :
    (∃ rp, pt = .restoring rp) ∨ ∃ restored, pt = .announcing restored := by
  cases pt with
  | restoring rp => exact .inl ⟨rp, rfl⟩
  | announcing restored => exact .inr ⟨restored, rfl⟩
  | creating tab => cases hr.unique h
  | relaying p pt => cases hr.unique h
  | passing p handover pt => cases hr.unique h
  | reporting p cause n pt => cases hr.unique h
  | replaying pt =>
    obtain ⟨m, rfl, -⟩ := hr
    cases h
  | saving purpose pt =>
    cases purpose with
    | opening tab session => cases hr.unique h
    | completing p n => cases hr.unique h
    | failing p cause n => cases hr.unique h
    | keeping =>
      obtain ⟨state, h⟩ := h
      cases hr.unique h
    | _ =>
      obtain ⟨m, rfl, -⟩ := hr
      cases h

namespace Ensemble

/-! ## What stands behind the handlers -/

/-- The handlers are those of a schedule without a shutdown and without failed deliveries, the store has what handlers
have asked it to take, and no restore has come further than to reading it. -/
structure Backed [Host] (shelf : Shelf) (visible : Bool) (s : Ensemble) : Prop where
  scene : s.scene = (Scene.start shelf visible).run s.past
  stays : ∀ m ∈ s.past, m ≠ .begin .shutdown
  calm : s.scene.Calm
  store : ∀ key, s.scene.Written (s.store key)
  ready : ∀ i a, s.ready i = some a → s.scene.Written a.toValue
  restores : ∀ h ∈ s.scene.handlers, Calls (fun pt _ => ∀ rp, pt = .restoring rp → rp = .reading) h.status

theorem backed_start [Host] (shelf : Shelf) (visible : Bool) (delay : Delay) :
    Backed shelf visible (start shelf visible delay) where
  scene := rfl
  stays := fun _ hm => absurd hm List.not_mem_nil
  calm := fun _ hh => absurd hh List.not_mem_nil
  store := fun _ => .inl rfl
  ready := fun _ _ h => nomatch h
  restores := fun _ hh => absurd hh List.not_mem_nil

section

variable [Host] {shelf : Shelf} {visible : Bool} {s s' : Ensemble} (h : Backed shelf visible s)
include h

theorem Backed.asking : s.scene.Asking shelf := by
  rw [h.scene]
  exact Scene.asking_run shelf visible s.past

theorem Backed.serving : s.scene.Serving := by
  rw [h.scene]
  exact Scene.serving_run shelf visible s.past

theorem Backed.responding : Scene.Responding shelf s.scene (Scene.mail shelf visible s.past) := by
  have hcalm := h.calm
  rw [h.scene] at hcalm ⊢
  exact Scene.responding_traffic s.past hcalm (Scene.responding_start shelf visible)

theorem Backed.unclosed : s.scene.coordinator.closed = false := h.responding.unclosed

/-- The tabs of a value in the store are bound: they were when it was written. -/
theorem Backed.restorable {v : Json} (hv : s.scene.Written v) : Restorable shelf s.scene.coordinator.tabs v := by
  refine hv.imp_right ?_
  rintro ⟨handler, hmem, key, hcall⟩
  obtain ⟨i, hi⟩ := List.mem_iff_getElem?.1 hmem
  rw [h.scene] at hi ⊢
  obtain ⟨cut, d, hcut, -, -, -, rfl, -⟩ := Scene.cut_of_write hi hcall
  refine ⟨cut.records, cut.uiState, rfl, fun record hrecord => ?_⟩
  have hthen := (hcut.agrees.records record hrecord).1
  have hpast := List.prefix_iff_eq_take.1 hcut.past
  have hbound : (Scene.upTo shelf visible s.past cut.past.length).coordinator.tabs.session? record.tab ≠ none := by
    rw [Scene.upTo, Schedule.upTo, ← hpast, hthen]
    exact Option.some_ne_none _
  have hnow := Scene.bound_upTo h.stays hcut.past.length_le hbound
  rwa [Scene.upTo, Schedule.upTo, List.take_length] at hnow

end

/-! ## What an answer does -/

/-- A handler was answered. -/
theorem scene_answered [Host] {s : Ensemble} {i : Nat} {r : Request} {d : List (Call × Except Fault Answer)}
    {call : Call} {pt : Point} (hi : s.scene.handlers[i]? = some ⟨r, d, .waiting call pt⟩) (a : Except Fault Answer)
    (p : Play) :
    (s.answered i a p).scene = ⟨(s.scene.coordinator.resume a pt).coordinator,
      s.scene.handlers.set i ⟨r, d ++ [(call, a)], (s.scene.coordinator.resume a pt).next⟩⟩ := Scene.step_answer hi a

section

variable {ids : Nat → String} {s : Ensemble} {i : Nat} {call : Call} {pt : Point} {a : Except Fault Answer} {p : Play}

/-- What an answer does to the agent, to the streams and to the tabs. -/
inductive Effect (ids : Nat → String) (s : Ensemble) (i : Nat) : Call → Point → Except Fault Answer → Play → Prop
  /-- The session of a new tab has come. -/
  | created (tab : String) : Effect ids s i .createSession (.creating tab) (.ok (.session (ids s.issued)))
      { s.toPlay with echo := (s.echo.create (ids s.issued)).1, issued := s.issued + 1 }
  /-- A response was asked for. -/
  | opened (p : Prompt) : Effect ids s i (.openStream p.session p.text) (.relaying p .opening) (.ok .done)
      { s.toPlay with streams := Function.update s.streams i (.fresh p.session p.text) }
  /-- A response was pulled. -/
  | pulled (p : Prompt) (n : Nat) (echo : Echo) (stream : Echo.Stream) (pull : Echo.Pull) :
      s.echo.pull (s.streams i) = (echo, stream, pull) → pull ≠ .pause →
      Effect ids s i .pullStream (.relaying p (.pulling n)) (pulled pull)
        { s.toPlay with echo := echo, streams := Function.update s.streams i stream }
  /-- A response was closed. -/
  | closed (p : Prompt) (ending : Relay.Ending) : Effect ids s i .closeStream (.relaying p (.closing ending))
      (.ok .done) { s.toPlay with streams := Function.update s.streams i .ended }
  /-- Neither the agent nor the tabs have changed. -/
  | still (call : Call) (pt : Point) (a : Except Fault Answer) : (∀ p rp, pt ≠ .relaying p rp) →
      (∀ tab, pt ≠ .creating tab) → mild call a = true → Coordinator.piece? (call, a) = none →
      (∀ tab message, Coordinator.terminal? tab message (call, a) = none) → Effect ids s i call pt a s.toPlay

theorem Answerable.of_store (ha : Answerable ids s i call a p) (hstore : onStore call = true) :
    p = s.toPlay ∧ ∀ b, a = .ok b → s.ready i = some b := by
  cases ha with
  | stored _ hready => exact ⟨rfl, hready⟩
  | replied hother => exact absurd (hstore.symm.trans hother) (by simp)

theorem Answerable.of_other (ha : Answerable ids s i call a p) (hother : onStore call = false) :
    s.toPlay.reply ids i call = (some a, p) := by
  cases ha with
  | stored hstore => exact absurd (hother.symm.trans hstore) (by simp)
  | replied _ hreply => exact hreply

/-- A message was taken. -/
theorem effect_of_delivery {e : Outbound} (ha : Answerable ids s i (.deliver e) a p)
    (hrelaying : ∀ q rp, pt ≠ .relaying q rp) (hcreating : ∀ tab, pt ≠ .creating tab) :
    Effect ids s i (.deliver e) pt a p := by
  have hreply := ha.of_other rfl
  cases hreply
  exact .still _ _ _ hrelaying hcreating rfl rfl fun _ _ => rfl

/-- The store was called, and the handler learns what has come of it. -/
theorem effect_of_store (ha : Answerable ids s i call a p) (hstore : onStore call = true)
    (hrelaying : ∀ q rp, pt ≠ .relaying q rp) (hcreating : ∀ tab, pt ≠ .creating tab) : Effect ids s i call pt a p := by
  obtain ⟨rfl, -⟩ := ha.of_store hstore
  cases call with
  | getValue key => exact .still _ _ _ hrelaying hcreating rfl rfl fun _ _ => rfl
  | updateValue key v => exact .still _ _ _ hrelaying hcreating rfl rfl fun _ _ => rfl
  | deleteValue key => exact .still _ _ _ hrelaying hcreating rfl rfl fun _ _ => rfl
  | _ => cases hstore

theorem Effect.mild (he : Effect ids s i call pt a p) : mild call a = true := by
  cases he with
  | still _ _ _ _ _ hmild => exact hmild
  | _ => rfl

/-- The responses to other handlers are as they were. -/
theorem Effect.streams (he : Effect ids s i call pt a p) {j : Nat} (hj : j ≠ i) : p.streams j = s.streams j := by
  cases he with
  | created => rfl
  | still => rfl
  | _ => exact Function.update_of_ne hj _ _

theorem Effect.store (he : Effect ids s i call pt a p) : p.store = s.store := by cases he <;> rfl

end

section

variable [Host] {ids : Nat → String} {shelf : Shelf} {visible : Bool} {s s' : Ensemble} (h : Backed shelf visible s)
  {i : Nat} {r : Request} {d : List (Call × Except Fault Answer)} {call : Call} {pt : Point}
  (hi : s.scene.handlers[i]? = some ⟨r, d, .waiting call pt⟩)
include h

include hi in
theorem effect_of_answerable {a : Except Fault Answer} {p : Play} (ha : Answerable ids s i call a p) :
    Effect ids s i call pt a p := by
  have hmem := List.mem_of_getElem? hi
  have hask := h.asking.asks _ hmem call pt rfl
  cases pt with
  | creating tab =>
    obtain rfl : call = .createSession := hask
    have hreply := ha.of_other rfl
    cases hreply
    exact .created tab
  | relaying q rp =>
    obtain rfl : call = relayCall q rp := hask
    cases rp with
    | opening =>
      have hreply := ha.of_other rfl
      cases hreply
      exact .opened q
    | pulling n =>
      have hreply := ha.of_other rfl
      simp only [relayCall, Play.reply] at hreply
      rcases hpull : s.echo.pull (s.streams i) with ⟨echo, stream, pull⟩
      rw [hpull] at hreply
      cases pull with
      | pause => cases hreply
      | _ =>
        cases hreply
        exact .pulled q n echo stream _ hpull (by simp)
    | closing ending =>
      have hreply := ha.of_other rfl
      cases hreply
      exact .closed q ending
  | passing q handover pt =>
    obtain rfl := hask
    exact effect_of_delivery ha (by simp) (by simp)
  | reporting q cause n pt =>
    obtain rfl := hask
    exact effect_of_delivery ha (by simp) (by simp)
  | announcing restored =>
    obtain rfl := hask
    exact effect_of_delivery ha (by simp) (by simp)
  | replaying pt =>
    obtain rfl := hask
    exact effect_of_delivery ha (by simp) (by simp)
  | saving purpose sp =>
    obtain rfl : call = saveCall shelf sp := hask.1
    cases sp with
    | reading progress tab session rest =>
      have hreply := ha.of_other rfl
      cases hreply
      exact .still _ _ _ (by simp) (by simp) rfl rfl fun _ _ => rfl
    | _ => exact effect_of_store ha rfl (by simp) (by simp)
  | restoring rp =>
    obtain rfl := h.restores _ hmem call _ rfl rp rfl
    obtain rfl : call = .getValue shelf.key := hask
    exact effect_of_store ha rfl (by simp) (by simp)

include hi in
/-- A handler that goes on asks for no session to be resumed. -/
theorem restores_resume {a : Except Fault Answer} {p : Play} (ha : Answerable ids s i call a p) :
    Calls (fun pt _ => ∀ rp, pt = .restoring rp → rp = .reading) (s.scene.coordinator.resume a pt).next := by
  rintro call' pt' hnext rp rfl
  have hmem := List.mem_of_getElem? hi
  have hserves := h.serving _ hmem call pt rfl
  have hasks : r.Asks .requestSavedState := serves_resume s.scene.coordinator a hserves call' _ hnext
  rcases hserves.restores hasks with ⟨rp', rfl⟩ | ⟨restored, rfl⟩
  · obtain rfl := h.restores _ hmem call _ rfl rp' rfl
    obtain rfl : call = .getValue shelf.key := h.asking.asks _ hmem call _ rfl
    obtain ⟨-, hready⟩ := ha.of_store rfl
    cases a with
    | error f => cases hnext
    | ok b =>
      have hrestorable := h.restorable (h.ready i b (hready b rfl))
      rw [← h.asking.kept] at hrestorable
      obtain ⟨m, hm⟩ := hrestorable.finished
      have hended : (Restore.resume s.scene.coordinator.shelf s.scene.coordinator.tabs .reading (.ok b)).next =
          .finished (.ok m) := hm
      simp [resume, afterRestore, hended, Turn.report, await] at hnext
  · cases a <;> cases hnext

theorem backed_begin {r : Request} (hr : r.closes = false) : Backed shelf visible (s.begun r) := by
  have hshift : s.scene.Shift (.begin r) (s.begun r).scene := Scene.step_shift s.scene (.begin r)
  refine ⟨?_, ?_, ?_, fun key => Scene.written_shift hshift (h.store key),
    fun i a ha => Scene.written_shift hshift (h.ready i a ha), ?_⟩
  · show s.scene.step (.begin r) = _
    rw [h.scene, begun, Scene.run_concat]
  · intro m hm
    rcases List.mem_append.1 hm with hm | hm
    · exact h.stays m hm
    · obtain rfl := List.mem_singleton.1 hm
      rintro ⟨⟩
      cases hr
  · intro h' hh
    rcases List.mem_append.1 hh with hh | hh
    · exact h.calm h' hh
    · obtain rfl := List.mem_singleton.1 hh
      exact ⟨hr, fun x hx => absurd hx List.not_mem_nil⟩
  · intro h' hh
    rcases List.mem_append.1 hh with hh | hh
    · exact h.restores h' hh
    · obtain rfl := List.mem_singleton.1 hh
      rintro call pt hnext rp rfl
      exact restoring_begin hnext

include hi in
theorem backed_answer {a : Except Fault Answer} {p : Play} (ha : Answerable ids s i call a p) :
    Backed shelf visible (s.answered i a p) := by
  have hmem := List.mem_of_getElem? hi
  have he := effect_of_answerable h hi ha
  have hshift : s.scene.Shift (.answer i a) (s.answered i a p).scene := Scene.step_shift s.scene (.answer i a)
  have hscene := scene_answered hi a p
  refine ⟨?_, ?_, ?_, fun key => ?_, fun j b hj => ?_, ?_⟩
  · show s.scene.step (.answer i a) = _
    rw [h.scene, answered, Scene.run_concat]
  · intro m hm
    rcases List.mem_append.1 hm with hm | hm
    · exact h.stays m hm
    · obtain rfl := List.mem_singleton.1 hm
      simp
  · rw [hscene]
    intro h' hh
    rcases List.mem_or_eq_of_mem_set hh with hh | rfl
    · exact h.calm h' hh
    · have hcalm := h.calm _ hmem
      refine ⟨hcalm.stays, fun x hx => ?_⟩
      rcases List.mem_append.1 hx with hx | hx
      · exact hcalm.mild x hx
      · obtain rfl := List.mem_singleton.1 hx
        exact he.mild
  · rw [show (s.answered i a p).store = s.store from he.store]
    exact Scene.written_shift hshift (h.store key)
  · have hj' : Function.update s.ready i none j = some b := hj
    rw [Function.update_apply] at hj'
    split at hj'
    · cases hj'
    · exact Scene.written_shift hshift (h.ready j b hj')
  · rw [hscene]
    intro h' hh
    rcases List.mem_or_eq_of_mem_set hh with hh | rfl
    · exact h.restores h' hh
    · exact restores_resume h hi ha

include hi in
/-- The store has carried out a call. -/
theorem backed_perform {a : Answer} {store : Values} (hout : carryOut s.store call = some (a, store)) :
    Backed shelf visible { s with store := store, ready := Function.update s.ready i (some a) } := by
  have hmem := List.mem_of_getElem? hi
  have hwritten : s.scene.Written a.toValue ∧ ∀ key, s.scene.Written (store key) := by
    cases call with
    | getValue key =>
      cases hout
      exact ⟨h.store key, h.store⟩
    | updateValue key v =>
      cases hout
      refine ⟨.inl rfl, fun key' => ?_⟩
      rw [Function.update_apply]
      split
      · exact .inr ⟨_, hmem, key, Schedule.Handler.mem_calls_waiting⟩
      · exact h.store key'
    | deleteValue key =>
      cases hout
      refine ⟨.inl rfl, fun key' => ?_⟩
      rw [Function.update_apply]
      split
      · exact .inl rfl
      · exact h.store key'
    | _ => cases hout
  refine { h with store := hwritten.2, ready := fun j b hj => ?_ }
  have hj' : Function.update s.ready i (some a) j = some b := hj
  rw [Function.update_apply] at hj'
  split at hj'
  · obtain rfl := Option.some.inj hj'
    exact hwritten.1
  · exact h.ready j b hj'

theorem backed_change {m : Move} (hs : Change ids s m s')
    (hm : ∀ r, m = .begin r → s.Admits r) : Backed shelf visible s' := by
  cases hs with
  | idle => exact h
  | begin r => exact backed_begin h (hm r rfl).stays
  | perform i r d call pt a store hi hout => exact backed_perform h hi hout
  | pause => exact { h with }
  | answer _ i r d call pt a p _ hi ha => exact backed_answer h hi ha

end

end Ensemble

end ChatRelay.Coordinator
