import ChatRelay.Proofs.Coordinator.Calls
import ChatRelay.Proofs.Outbox.Events

/-!
# The mail of a coordinator

What the handlers of a coordinator do with its outbox is a traffic of letters, each handler being a task: a schedule of
handlers makes a schedule of the outbox.

- `Scene.errands`: what one move does with the outbox, and `Scene.mail`, the traffic that a schedule makes;
- `Scene.Mirrors`: the traffic has the outbox of the coordinator, and its tasks wait where the handlers do
  (`Scene.mirrors_mail`).
-/

namespace ChatRelay.Coordinator

/-! ## Errands -/

/-- Where in the outbox a handler waits that is at a point. -/
def Point.outbox? : Point → Option (Outbox.Point Outbound)
  | .passing _ _ pt => some pt
  | .reporting _ _ _ pt => some pt
  | .replaying pt => some pt
  | _ => none

/-- Where in the outbox a handler waits. -/
def outboxPoint? : Next Call Point Outcome → Option (Outbox.Point Outbound)
  | .finished _ => none
  | .waiting _ pt => pt.outbox?

/-- The end of a delivery, as the outbox learns of it. -/
def ending (a : Except Fault Answer) : Except Fault Unit := a.map fun _ => ()

/-- A relay that has broken off is reported. -/
def relayErrands (task : Nat) (p : Prompt) : Next Call Relay.Point Nat → List (Outbox.Move Outbound)
  | .finished (.error (.relay _ _ _ cause)) => [.send task (.failed p.tab p.message cause.text)]
  | _ => []

/-- What a handler does with the outbox when it goes on. -/
def errands (c : Coordinator) (task : Nat) (a : Except Fault Answer) : Point → List (Outbox.Move Outbound)
  | .relaying p pt =>
    match Relay.resume p pt a with
    | .pass e _ => [.send task e]
    | .next next => relayErrands task p next
  | .passing p handover pt => .settle task (ending a) ::
    match (c.outbox.resume pt (ending a)).next with
    | .finished r => relayErrands task p (Relay.passed handover r)
    | .waiting _ _ => []
  | .reporting _ _ _ _ => [.settle task (ending a)]
  | .replaying _ => [.settle task (ending a)]
  | .saving .leaving (.writing _) =>
    match a with
    | .ok _ => [.close]
    | .error _ => []
  | _ => []

namespace Scene

/-- What a move does with the outbox. The tasks are the numbers of the handlers. -/
def errands (s : Scene) : Move → List (Outbox.Move Outbound)
  | .begin .hidden => [.hold]
  | .begin .visible => [.release s.handlers.length]
  | .begin _ => []
  | .answer i a =>
    match s.handlers[i]? with
    | some ⟨_, _, .waiting _ pt⟩ => s.coordinator.errands i a pt
    | _ => []

/-- The traffic that goes on while a schedule is carried out. -/
def traffic [Host] (s : Scene) (t : Outbox.Traffic Outbound) : List Move → Outbox.Traffic Outbound
  | [] => t
  | m :: moves => (s.step m).traffic (t.run (s.errands m)) moves

/-- The letters that the outbox of a coordinator was given in a schedule, and what has become of them. -/
def mail [Host] (shelf : Shelf) (visible : Bool) (moves : List Move) : Outbox.Traffic Outbound :=
  (start shelf visible).traffic (.start visible) moves

end Scene

/-! ## What a turn does with the outbox -/

/-- A turn that leaves a certain outbox and waits at a certain point of it. -/
structure Turn.Leaves (t : Turn) (b : Outbox Outbound) (pt : Option (Outbox.Point Outbound)) : Prop where
  outbox : t.coordinator.outbox = b
  point : outboxPoint? t.next = pt

theorem Turn.Leaves.report {t : Turn} {b : Outbox Outbound} {pt : Option (Outbox.Point Outbound)} (h : t.Leaves b pt)
    (notices : List Notice) : (t.report notices).Leaves b pt := ⟨h.outbox, h.point⟩

/-- What the end of a save does with the outbox. -/
def Purpose.conclude (b : Outbox Outbound) : Purpose → Outbox Outbound
  | .leaving => b.close.1
  | _ => b

theorem leaves_conclude (c : Coordinator) (purpose : Purpose) (saved : SaveResult) :
    (conclude c purpose saved).Leaves (purpose.conclude c.outbox) none := by
  cases purpose <;> exact ⟨rfl, rfl⟩

theorem leaves_afterSave (c : Coordinator) (purpose : Purpose) (t : Save.Turn) :
    (∃ saved, t.next = .finished (.ok saved) ∧ (afterSave c purpose t).Leaves (purpose.conclude c.outbox) none) ∨
    (∀ saved, t.next ≠ .finished (.ok saved)) ∧ (afterSave c purpose t).Leaves c.outbox none := by
  unfold afterSave
  rcases t.next with (f | saved) | ⟨call, pt⟩
  · exact .inr ⟨by simp, rfl, rfl⟩
  · exact .inl ⟨saved, rfl, (leaves_conclude c purpose saved).report _⟩
  · exact .inr ⟨by simp, rfl, rfl⟩

/-- A save begins with a call. -/
theorem leaves_save (c : Coordinator) (purpose : Purpose) (uiState : Option Json) :
    (save c purpose uiState).Leaves c.outbox none := by
  rcases leaves_afterSave c purpose (Save.start c.shelf c.tabs uiState) with ⟨saved, h, -⟩ | ⟨-, h⟩
  · cases uiState with
    | none => simp [Save.start] at h
    | some ui =>
      cases htabs : c.tabs <;> simp [Save.start, Save.collect, Save.advance, htabs] at h
  · exact h

theorem leaves_persist (c : Coordinator) (purpose : Purpose) (hp : purpose ≠ .leaving) (uiState : Option Json) :
    (persist c purpose uiState).Leaves c.outbox none := by
  unfold persist
  split
  · have h := leaves_conclude c purpose .nothing
    cases purpose with
    | leaving => exact absurd rfl hp
    | _ => exact h
  · exact leaves_save c purpose uiState

theorem leaves_afterReport (c : Coordinator) (p : Prompt) (cause : Fault) (n : Nat) (t : Outbox.Turn Outbound) :
    (afterReport c p cause n t).Leaves t.outbox t.point? := by
  unfold afterReport Outbox.Turn.point?
  rcases t.next with (f | _) | ⟨e, pt⟩
  · exact ⟨rfl, rfl⟩
  · have h := leaves_persist { c with outbox := t.outbox } (.failing p cause n) (by simp) none
    exact ⟨h.outbox, h.point⟩
  · exact ⟨rfl, rfl⟩

theorem leaves_afterReplay (c : Coordinator) (t : Outbox.Turn Outbound) :
    (afterReplay c t).Leaves t.outbox t.point? := by
  unfold afterReplay Outbox.Turn.point?
  rcases t.next with (f | _) | ⟨e, pt⟩ <;> exact ⟨rfl, rfl⟩

theorem leaves_afterRestore (c : Coordinator) (t : Restore.Turn) : (afterRestore c t).Leaves c.outbox none := by
  unfold afterRestore
  rcases t.next with (f | restored) | ⟨call, pt⟩ <;> exact ⟨rfl, rfl⟩

theorem leaves_drop [Host] (c : Coordinator) (refusal : Inbound.Refusal) : (drop c refusal).Leaves c.outbox none := by
  obtain ⟨reason, hd⟩ | ⟨f, hd⟩ := drop_cases c refusal <;> exact hd ▸ ⟨rfl, rfl⟩

theorem leaves_beginInbound [Host] (c : Coordinator) (m : Json) : (beginInbound c m).Leaves c.outbox none := by
  unfold beginInbound
  split
  · exact ⟨rfl, rfl⟩
  · split
    · unfold beginEvent
      split
      · exact ⟨rfl, rfl⟩
      · split <;> exact ⟨rfl, rfl⟩
      · exact leaves_persist c _ (by simp) _
      · exact leaves_afterRestore c _
    · exact leaves_drop c _

/-- A save ends well when its snapshot was written. -/
theorem save_finished {shelf : Shelf} {tabs : TabMap} {pt : Save.Point} {a : Except Fault Answer} {saved : SaveResult}
    (h : (Save.resume shelf tabs pt a).next = .finished (.ok saved)) :
    ∃ progress a', pt = .writing progress ∧ a = .ok a' := by
  cases pt with
  | writing progress =>
    cases a with
    | ok a => exact ⟨progress, a, rfl, rfl⟩
    | error => simp [Save.resume] at h
  | recalling =>
    cases a with
    | ok a => cases htabs : tabs <;> simp [Save.resume, Save.collect, Save.advance, htabs] at h
    | error => simp [Save.resume] at h
  | reading _ _ _ rest => cases a <;> cases rest <;> simp [Save.resume, Save.advance] at h

/-- A send that ends at once ends well. -/
theorem send_finished {ε : Type} {b : Outbox ε} {e : ε} {r : Except Fault Unit} (h : (b.send e).next = .finished r) :
    r = .ok () := by
  rcases Outbox.Traffic.send_cases b e with
    ⟨-, he⟩ | ⟨-, -, -, -, he⟩ | ⟨-, -, reports, he⟩ | ⟨-, -, -, e', rest, -, he⟩
  · simpa [he, Outbox.finish, eq_comm] using h
  · simp [he] at h
  · simpa [he, Outbox.finish, eq_comm] using h
  · simp [he] at h

/-! ## Traffic and turns -/

open Outbox (Traffic)
open Outbox.Traffic (Did did_send did_settle did_release)

/-- A traffic after the errands of a handler, and the turn that the handler has taken. -/
structure Mirror (t t' : Traffic Outbound) (task : Nat) (turn : Turn) : Prop where
  events : t'.events = turn.coordinator.outbox
  point : t'.pointOf task = outboxPoint? turn.next
  others : ∀ j, j ≠ task → t'.pointOf j = t.pointOf j
  once : (t'.waiting.map (·.task)).Nodup

theorem Mirror.report {t t' : Traffic Outbound} {task : Nat} {turn : Turn} (h : Mirror t t' task turn)
    (notices : List Notice) : Mirror t t' task (turn.report notices) := ⟨h.events, h.point, h.others, h.once⟩

/-- A handler without an errand. -/
theorem mirror_still {t : Traffic Outbound} {b : Outbox Outbound} {task : Nat} {turn : Turn}
    (ho : (t.waiting.map (·.task)).Nodup) (hc : t.events = b) (hi : t.pointOf task = none) (h : turn.Leaves b none) :
    Mirror t t task turn := ⟨hc.trans h.outbox.symm, hi.trans h.point.symm, fun _ _ => rfl, ho⟩

/-- A handler with one errand. -/
theorem mirror_did {t t' : Traffic Outbound} {task : Nat} {turn : Turn} {o : Outbox.Turn Outbound}
    (hd : Did t t' task o) (ho : (t'.waiting.map (·.task)).Nodup) (h : turn.Leaves o.outbox o.point?) :
    Mirror t t' task turn :=
  ⟨hd.outbox.trans h.outbox.symm, hd.point.trans h.point.symm, hd.others, ho⟩

theorem once_step {t : Traffic Outbound} (ho : (t.waiting.map (·.task)).Nodup) {m : Outbox.Move Outbound}
    (hp : t.Patient m) : ((t.step m).waiting.map (·.task)).Nodup :=
  Outbox.Traffic.once_shift (Outbox.Traffic.step_shift t m) hp ho

theorem once_settle {t : Traffic Outbound} (ho : (t.waiting.map (·.task)).Nodup) (task : Nat) (r : Except Fault Unit) :
    ((t.step (.settle task r)).waiting.map (·.task)).Nodup := once_step ho (m := .settle task r) trivial

theorem mirror_afterRelay {t : Traffic Outbound} {c : Coordinator} {task : Nat} (ho : (t.waiting.map (·.task)).Nodup)
    (hc : t.events = c.outbox) (hi : t.pointOf task = none) (p : Prompt) (next : Next Call Relay.Point Nat) :
    Mirror t (t.run (relayErrands task p next)) task (afterRelay c p next) := by
  have hstill : ∀ {turn : Turn}, turn.Leaves c.outbox none → Mirror t t task turn := mirror_still ho hc hi
  rcases next with (f | n) | ⟨call, pt⟩
  · cases f with
    | relay tab message n cause =>
      refine Mirror.report (mirror_did (did_send hi _) (once_step ho (Outbox.Traffic.pointOf_eq_none.1 hi)) ?_) _
      rw [hc]
      exact leaves_afterReport c p cause n _
    | _ => exact hstill ⟨rfl, rfl⟩
  · exact (hstill (leaves_persist c _ (by simp) none)).report _
  · exact hstill ⟨rfl, rfl⟩

/-- A handler that passes an event of a response on, or has passed it. -/
theorem mirror_afterPass {t t₁ : Traffic Outbound} {c : Coordinator} {task : Nat} {o : Outbox.Turn Outbound}
    (hd : Did t t₁ task o) (ho : (t₁.waiting.map (·.task)).Nodup) (p : Prompt) (handover : Relay.Handover) :
    Mirror t (t₁.run (match o.next with
      | .finished r => relayErrands task p (Relay.passed handover r)
      | .waiting _ _ => [])) task (afterPass c p handover o) := by
  unfold afterPass
  refine Mirror.report ?_ _
  have hp := hd.point
  rw [Outbox.Turn.point?] at hp
  rcases hn : o.next with r | ⟨e, pt⟩
  · rw [hn] at hp
    have h := mirror_afterRelay (c := { c with outbox := o.outbox }) ho hd.outbox hp p (Relay.passed handover r)
    exact ⟨h.events, h.point, fun j hj => (h.others j hj).trans (hd.others j hj), h.once⟩
  · rw [hn] at hp
    exact ⟨hd.outbox, hp, hd.others, ho⟩

theorem mirror_resume {t : Traffic Outbound} {c : Coordinator} {task : Nat} {pt : Point}
    (ho : (t.waiting.map (·.task)).Nodup) (hc : t.events = c.outbox) (hi : t.pointOf task = pt.outbox?)
    (a : Except Fault Answer) : Mirror t (t.run (c.errands task a pt)) task (c.resume a pt) := by
  -- a delivery that the outbox waits for has ended
  have hsettle : ∀ {pt : Outbox.Point Outbound}, t.pointOf task = some pt →
      Did t (t.step (.settle task (ending a))) task (c.outbox.resume pt (ending a)) := fun h => hc ▸ did_settle ho h _
  have hstill : ∀ {turn : Turn}, t.pointOf task = none → turn.Leaves c.outbox none → Mirror t t task turn :=
    mirror_still ho hc
  cases pt with
  | creating tab =>
    cases a with
    | ok a =>
      have h := leaves_persist { c with tabs := c.tabs.bind tab a.toSession } (.opening tab a.toSession) (by simp) none
      exact hstill hi (h.report _)
    | error f => exact hstill hi ⟨rfl, rfl⟩
  | relaying p pt =>
    unfold errands
    cases h : Relay.resume p pt a with
    | pass e handover =>
      have hsend := once_step ho (m := .send task e) (Outbox.Traffic.pointOf_eq_none.1 hi)
      have hm := mirror_afterPass (c := c) (did_send hi e) hsend p handover
      simp only [resume, afterStep, h, ← hc]
      -- a send that ends at once ends well, and the relay goes on without a word
      rcases hn : (t.events.send e).next with r | ⟨e', pt'⟩
      · rw [hn, send_finished hn] at hm
        cases handover <;> exact hm
      · rw [hn] at hm
        exact hm
    | next next =>
      simp only [resume, afterStep, h]
      exact mirror_afterRelay ho hc hi p next
  | passing p handover pt => exact mirror_afterPass (hsettle hi) (once_settle ho task _) p handover
  | reporting p cause n pt => exact mirror_did (hsettle hi) (once_settle ho task _) (leaves_afterReport c p cause n _)
  | saving purpose pt =>
    rcases leaves_afterSave c purpose (Save.resume c.shelf c.tabs pt a) with ⟨saved, hf, hl⟩ | ⟨hf, hl⟩
    · obtain ⟨progress, a', rfl, rfl⟩ := save_finished hf
      cases purpose with
      | leaving => exact ⟨hl.outbox ▸ congrArg (fun b => b.close.1) hc, hi.trans hl.point.symm, fun _ _ => rfl, ho⟩
      | _ => exact hstill hi hl
    · cases purpose with
      | leaving =>
        cases pt with
        | writing progress =>
          cases a with
          | ok a => exact absurd rfl (hf _)
          | error f => exact hstill hi hl
        | _ => exact hstill hi hl
      | _ => exact hstill hi hl
  | restoring pt => exact hstill hi (leaves_afterRestore c _)
  | announcing restored => cases a <;> exact hstill hi ⟨rfl, rfl⟩
  | replaying pt => exact mirror_did (hsettle hi) (once_settle ho task _) (leaves_afterReplay c _)

theorem mirror_begin [Host] {t : Traffic Outbound} {s : Scene} (ho : (t.waiting.map (·.task)).Nodup)
    (hc : t.events = s.coordinator.outbox) (hi : t.pointOf s.handlers.length = none) (r : Request) :
    Mirror t (t.run (s.errands (.begin r))) s.handlers.length (s.coordinator.begin r) := by
  have hstill : ∀ {turn : Turn}, turn.Leaves s.coordinator.outbox none → Mirror t t s.handlers.length turn :=
    mirror_still ho hc hi
  cases r with
  | inbound m => exact hstill (leaves_beginInbound s.coordinator m)
  | hidden =>
    have h := leaves_persist { s.coordinator with outbox := s.coordinator.outbox.hold } .hiding (by simp) none
    exact ⟨(congrArg Outbox.hold hc).trans h.outbox.symm, hi.trans h.point.symm, fun _ _ => rfl, ho⟩
  | visible =>
    refine Mirror.report (mirror_did (did_release hi) (once_step ho (Outbox.Traffic.pointOf_eq_none.1 hi)) ?_) _
    rw [hc]
    exact leaves_afterReplay ..
  | shutdown =>
    simp only [begin]
    split
    · exact hstill ⟨rfl, rfl⟩
    · have h := leaves_save { s.coordinator with closed := true } .leaving none
      exact hstill ⟨h.outbox, h.point⟩

/-! ## Schedules -/

namespace Scene

/-- Where in the outbox a handler waits. -/
def pointOf (s : Scene) (i : Nat) : Option (Outbox.Point Outbound) := s.handlers[i]?.bind fun h => outboxPoint? h.status

/-- The traffic has the outbox of the coordinator, and its tasks wait where the handlers do. -/
structure Mirrors (s : Scene) (t : Traffic Outbound) : Prop where
  once : (t.waiting.map (·.task)).Nodup
  events : t.events = s.coordinator.outbox
  points : ∀ i, t.pointOf i = s.pointOf i

theorem mirrors_start (shelf : Shelf) (visible : Bool) : Mirrors (start shelf visible) (.start visible) :=
  ⟨.nil, rfl, fun _ => rfl⟩

/-- Who takes no answer has no errand. -/
theorem errands_idle {s : Scene} {i : Nat} {a : Except Fault Answer}
    (hi : ∀ r d call pt, s.handlers[i]? ≠ some ⟨r, d, .waiting call pt⟩) : s.errands (.answer i a) = [] := by
  rcases hh : s.handlers[i]? with _ | ⟨r, d, result | ⟨call, pt⟩⟩
  · simp only [errands, hh]
  · simp only [errands, hh]
  · exact absurd hh (hi r d call pt)

section

variable [Host]

theorem mirrors_shift {s s' : Scene} {m : Move} (hs : Shift s m s') {t : Traffic Outbound} (h : Mirrors s t) :
    Mirrors s' (t.run (s.errands m)) := by
  cases hs with
  | begin r =>
    have hi : t.pointOf s.handlers.length = none := by simp [h.points, pointOf]
    have hm := mirror_begin h.once h.events hi r
    refine ⟨hm.once, hm.events, fun i => ?_⟩
    rcases Nat.lt_trichotomy i s.handlers.length with hlt | rfl | hgt
    · rw [hm.others i (Nat.ne_of_lt hlt), h.points]
      simp [pointOf, List.getElem?_append_left hlt]
    · rw [hm.point]
      simp [pointOf]
    · have hlate : (s.handlers ++ [⟨r, [], (s.coordinator.begin r).next⟩])[i]? = none :=
        List.getElem?_eq_none (by rw [List.length_append]; exact Nat.succ_le_of_lt hgt)
      have hout : s.handlers[i]? = none := List.getElem?_eq_none (Nat.le_of_lt hgt)
      rw [hm.others i (Nat.ne_of_gt hgt), h.points, pointOf, pointOf, hlate, hout]
  | idle i a hi =>
    rw [errands_idle hi]
    exact h
  | answer i a r d call pt hi =>
    have he : s.errands (.answer i a) = s.coordinator.errands i a pt := by simp only [errands, hi]
    have hpt : t.pointOf i = pt.outbox? := by
      rw [h.points]
      simp [pointOf, hi, outboxPoint?]
    rw [he]
    have hm := mirror_resume h.once h.events hpt a
    have hlt : i < s.handlers.length := (List.getElem?_eq_some_iff.1 hi).1
    refine ⟨hm.once, hm.events, fun j => ?_⟩
    by_cases hj : j = i
    · subst hj
      rw [hm.point]
      simp [pointOf, hlt]
    · rw [hm.others j hj, h.points]
      simp [pointOf, List.getElem?_set_ne (Ne.symm hj)]

theorem mirrors_traffic (moves : List Move) {s : Scene} {t : Traffic Outbound} (h : Mirrors s t) :
    Mirrors (s.run moves) (s.traffic t moves) := by
  induction moves generalizing s t with
  | nil => exact h
  | cons m moves ih => exact ih (mirrors_shift (step_shift s m) h)

/-- The mail of a coordinator has its outbox, and the tasks of the mail wait where the handlers do. -/
theorem mirrors_mail (shelf : Shelf) (visible : Bool) (moves : List Move) :
    Mirrors ((start shelf visible).run moves) (mail shelf visible moves) :=
  mirrors_traffic moves (mirrors_start shelf visible)

/-! ## What the surface is given -/

/-- The message that a handler delivers for the outbox. The restored state goes past it. -/
def outboxMessage? : Call → Point → Option Outbound
  | .deliver _, .announcing _ => none
  | .deliver e, _ => some e
  | _, _ => none

/-- The messages of the outbox whose delivery ends well in a move. -/
def delivers (s : Scene) : Move → List Outbound
  | .answer i (.ok _) =>
    match s.handlers[i]? with
    | some ⟨_, _, .waiting call pt⟩ => (outboxMessage? call pt).toList
    | _ => []
  | _ => []

/-- The messages of the outbox whose delivery ends well in a schedule. -/
def deliveries (s : Scene) : List Move → List Outbound
  | [] => []
  | m :: moves => s.delivers m ++ (s.step m).deliveries moves

end

/-- Who waits for the outbox has its message delivered. -/
theorem message_of_asks {shelf : Shelf} {shut : Bool} {pt : Point} {call : Call} (h : pt.Asks shelf shut call) :
    outboxMessage? call pt = pt.outbox?.map Outbox.Point.event := by
  cases pt with
  | relaying p pt =>
    obtain rfl := h
    cases pt <;> rfl
  | saving purpose pt =>
    obtain ⟨rfl, -⟩ := h
    cases pt <;> rfl
  | restoring pt =>
    cases pt with
    | resuming =>
      obtain ⟨state, rfl⟩ := h
      rfl
    | _ =>
      obtain rfl := h
      rfl
  | _ =>
    obtain rfl := h
    rfl

/-- Errands of a handler that does not wait for the outbox deliver nothing at once. -/
theorem delivered_sends (t : Traffic Outbound) (task : Nat) (p : Prompt) (next : Next Call Relay.Point Nat) :
    (t.run (relayErrands task p next)).delivered.map Outbox.Letter.event = t.delivered.map Outbox.Letter.event := by
  unfold relayErrands
  split
  · exact (Outbox.Traffic.delivered_step t (.send task _)).trans (List.append_nil _)
  · rfl

theorem delivered_shift [Host] {shelf : Shelf} {s s' : Scene} {m : Move} (hs : Shift s m s') (ha : s.Asking shelf)
    {t : Traffic Outbound} (h : Mirrors s t) : (t.run (s.errands m)).delivered.map Outbox.Letter.event =
      t.delivered.map Outbox.Letter.event ++ s.delivers m := by
  cases hs with
  | begin r =>
    cases r with
    | hidden => exact Outbox.Traffic.delivered_step t .hold
    | visible => exact Outbox.Traffic.delivered_step t (.release _)
    | _ => exact (List.append_nil _).symm
  | idle i a hi =>
    have hnone : s.delivers (.answer i a) = [] := by
      cases a with
      | error f => rfl
      | ok a =>
        rcases hh : s.handlers[i]? with _ | ⟨r, d, result | ⟨call, pt⟩⟩
        · simp only [delivers, hh]
        · simp only [delivers, hh]
        · exact absurd hh (hi r d call pt)
    rw [errands_idle hi, hnone, List.append_nil]
    rfl
  | answer i a r d call pt hi =>
    have he : s.errands (.answer i a) = s.coordinator.errands i a pt := by simp only [errands, hi]
    have hp : t.pointOf i = pt.outbox? := by
      rw [h.points]
      simp [pointOf, hi, outboxPoint?]
    have hmsg := message_of_asks (ha.asks _ (List.mem_of_getElem? hi) call pt rfl)
    have hsettle : (t.step (.settle i (ending a))).delivered.map Outbox.Letter.event =
        t.delivered.map Outbox.Letter.event ++ s.delivers (.answer i a) := by
      rw [Outbox.Traffic.delivered_step]
      cases a <;> simp [ending, Except.map, Outbox.Traffic.delivers, delivers, hi, hp, hmsg]
    have hnone : pt.outbox? = none → s.delivers (.answer i a) = [] := fun hpt => by
      cases a <;> simp [delivers, hi, hmsg, hpt]
    rw [he]
    cases pt with
    | passing p handover pt =>
      simp only [Coordinator.errands, Outbox.Traffic.run, List.foldl_cons]
      split
      · exact (delivered_sends _ i p _).trans hsettle
      · exact hsettle
    | reporting => exact hsettle
    | replaying => exact hsettle
    | relaying p pt =>
      rw [hnone rfl, List.append_nil]
      simp only [Coordinator.errands]
      split
      · exact (Outbox.Traffic.delivered_step t (.send i _)).trans (List.append_nil _)
      · exact delivered_sends ..
    | saving purpose pt =>
      rw [hnone rfl, List.append_nil]
      cases purpose with
      | leaving =>
        cases pt with
        | writing =>
          cases a with
          | ok => exact (Outbox.Traffic.delivered_step t .close).trans (List.append_nil _)
          | error => rfl
        | _ => rfl
      | _ => rfl
    | _ =>
      rw [hnone rfl, List.append_nil]
      rfl

theorem delivered_traffic [Host] {shelf : Shelf} (moves : List Move) {s : Scene} (ha : s.Asking shelf)
    {t : Traffic Outbound} (h : Mirrors s t) : (s.traffic t moves).delivered.map Outbox.Letter.event =
      t.delivered.map Outbox.Letter.event ++ s.deliveries moves := by
  induction moves generalizing s t with
  | nil => simp [traffic, deliveries]
  | cons m moves ih =>
    have hs := step_shift s m
    rw [traffic, ih (asking_shift hs ha) (mirrors_shift hs h), delivered_shift hs ha h, deliveries, List.append_assoc]

/-- What the mail counts as delivered is what the surface has taken from the outbox, in the same order. -/
theorem delivered_mail [Host] (shelf : Shelf) (visible : Bool) (moves : List Move) :
    (mail shelf visible moves).delivered.map Outbox.Letter.event = (start shelf visible).deliveries moves :=
  delivered_traffic moves (asking_start shelf visible) (mirrors_start shelf visible)

end Scene

end ChatRelay.Coordinator
