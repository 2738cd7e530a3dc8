import ChatRelay.Proofs.Outbox.Traffic
import Mathlib.Data.List.Nodup

/-!
# The letters of one sender

A task that waits does nothing else until its delivery has ended. As long as no delivery fails and the outbox stays
open, the letters of every such task are delivered in the order in which it sent them.

- `Traffic.Patient`, `Move.Smooth`: the moves that this is about;
- `Traffic.Queued`: the letters of a kind stay in their order when one is sent only while none is on the direct way
  (`Traffic.queued_shift`);
- `Traffic.Served`: the letters of a sender are those delivered, behind them the one it delivers itself, and behind
  that one those in line. A sender that delivers a letter itself has none in line;
- `Traffic.Served.delivered_prefix`: the delivered letters of a sender begin the letters it has sent;
- `Traffic.Served.delivered_all`: they are all of them once the sender waits no more and the surface is visible with
  no replay running.
-/

namespace ChatRelay.Outbox

variable {ε : Type}

/-- The event that is delivered without having been queued. -/
def Point.direct? : Point ε → Option ε
  | .direct e => some e
  | .replaying _ _ => none

/-- The letters of one sender. -/
def lettersOf (i : Nat) (ls : List (Letter ε)) : List (Letter ε) := ls.filter (·.sender = i)

@[simp] theorem lettersOf_nil (i : Nat) : lettersOf i ([] : List (Letter ε)) = [] := rfl

@[simp] theorem lettersOf_append (i : Nat) (ls ms : List (Letter ε)) :
    lettersOf i (ls ++ ms) = lettersOf i ls ++ lettersOf i ms := List.filter_append ..

theorem lettersOf_cons (i : Nat) (l : Letter ε) (ls : List (Letter ε)) :
    lettersOf i (l :: ls) = (if l.sender = i then [l] else []) ++ lettersOf i ls := by
  by_cases h : l.sender = i <;> simp [lettersOf, h]

/-- The outbox is not closed and no delivery fails. -/
def Move.Smooth : Move ε → Prop
  | .close => False
  | .settle _ r => r = .ok ()
  | _ => True

namespace Traffic

/-- The letters that routines deliver without having queued them. -/
def directs (ws : List (Routine ε)) : List (Letter ε) := ws.filterMap (·.point.direct?)

@[simp] theorem directs_append (ws ws' : List (Routine ε)) : directs (ws ++ ws') = directs ws ++ directs ws' :=
  List.filterMap_append

@[simp] theorem directs_nil : directs ([] : List (Routine ε)) = [] := rfl

@[simp] theorem directs_direct (task : Nat) (c : Option (Letter ε)) (l : Letter ε) (ws : List (Routine ε)) :
    directs (⟨task, c, .direct l⟩ :: ws) = l :: directs ws := rfl

@[simp] theorem directs_replaying (task : Nat) (c : Option (Letter ε)) (l : Letter ε) (n : Nat)
    (ws : List (Routine ε)) : directs (⟨task, c, .replaying l n⟩ :: ws) = directs ws := rfl

/-- A task waits for nothing. -/
def Idle (t : Traffic ε) (task : Nat) : Prop := ∀ w ∈ t.waiting, w.task ≠ task

/-- No task does anything while it waits. -/
def Patient (t : Traffic ε) : Move ε → Prop
  | .send task _ => t.Idle task
  | .release task => t.Idle task
  | .flush task => t.Idle task
  | _ => True

/-- The letters of every sender are delivered, delivered by the sender itself, or in line, in this order. -/
structure Served (t : Traffic ε) : Prop where
  oneReplay : t.OneReplay
  once : (t.waiting.map (·.task)).Nodup
  own : ∀ w ∈ t.waiting, ∀ l, w.point = .direct l → l.sender = w.task
  unclosed : t.outbox.closed = false
  flowing : t.outbox.visible = true → t.outbox.draining = false → t.outbox.queue = []
  split : ∀ i, lettersOf i t.sent = lettersOf i t.delivered ++ (lettersOf i (directs t.waiting) ++ lettersOf i t.line)
  ahead : ∀ i, lettersOf i (directs t.waiting) ≠ [] → lettersOf i t.line = []

theorem served_start (visible : Bool) : (start visible : Traffic ε).Served :=
  ⟨oneReplay_start visible, .nil, by simp [start], rfl, fun _ _ => rfl, fun _ => rfl, fun _ _ => rfl⟩

/-- Routines of other tasks deliver no letter of a task. -/
theorem lettersOf_directs {ws : List (Routine ε)} {task : Nat}
    (hown : ∀ w ∈ ws, ∀ l, w.point = .direct l → l.sender = w.task) (hne : ∀ w ∈ ws, w.task ≠ task) :
    lettersOf task (directs ws) = [] := by
  simp only [lettersOf, List.filter_eq_nil_iff, directs, List.mem_filterMap]
  rintro l ⟨⟨task', c, pt⟩, hw, hl⟩ hs
  cases pt with
  | replaying => simp [Point.direct?] at hl
  | direct l' =>
    obtain rfl : l' = l := by simpa [Point.direct?] using hl
    exact hne _ hw ((hown _ hw l' rfl).symm.trans (by simpa using hs))

/-- An idle task delivers nothing itself. -/
theorem Served.none_direct {t : Traffic ε} (h : t.Served) {task : Nat} (hi : t.Idle task) :
    lettersOf task (directs t.waiting) = [] := lettersOf_directs h.own hi

/-- When a routine has ended, its task is idle. -/
theorem others_of_nodup {task : Nat} {c : Option (Letter ε)} {pt : Point (Letter ε)} {l₁ l₂ : List (Routine ε)}
    (h : ((l₁ ++ ⟨task, c, pt⟩ :: l₂).map (·.task)).Nodup) : ∀ w ∈ l₁ ++ l₂, w.task ≠ task := by
  rw [List.map_append, List.map_cons] at h
  intro w hmem he
  refine (List.nodup_middle.1 h).notMem ?_
  rw [← List.map_append]
  exact List.mem_map.2 ⟨w, hmem, he⟩

/-- A task delivers one letter itself at most. -/
theorem Served.one_direct {t : Traffic ε} (h : t.Served) (task : Nat) :
    (lettersOf task (directs t.waiting)).length ≤ 1 := by
  by_cases hi : t.Idle task
  · rw [h.none_direct hi]
    exact Nat.zero_le 1
  · obtain ⟨⟨task', c, pt⟩, hw, rfl⟩ : ∃ w ∈ t.waiting, w.task = task := by simpa [Idle] using hi
    obtain ⟨l₁, l₂, hl⟩ := List.append_of_mem hw
    have hne := others_of_nodup (hl ▸ h.once)
    have hrest : lettersOf task' (directs (l₁ ++ l₂)) = [] := lettersOf_directs (fun w hmem =>
      h.own w (hl ▸ ((List.sublist_cons_self _ _).append_left _).subset hmem)) hne
    rw [directs_append, lettersOf_append, List.append_eq_nil_iff] at hrest
    cases pt with
    | direct l =>
      have hsender : l.sender = task' := h.own _ hw l rfl
      simp [hl, lettersOf_cons, hsender, hrest.1, hrest.2]
    | replaying l n => simp [hl, hrest.1, hrest.2]

/-! ## Letters of a kind -/

/-- The letters of a kind. -/
def ofKind (p : Letter ε → Bool) (ls : List (Letter ε)) : List (Letter ε) := ls.filter p

@[simp] theorem ofKind_nil (p : Letter ε → Bool) : ofKind p [] = [] := rfl

@[simp] theorem ofKind_append (p : Letter ε → Bool) (ls ms : List (Letter ε)) :
    ofKind p (ls ++ ms) = ofKind p ls ++ ofKind p ms := List.filter_append ..

theorem ofKind_cons (p : Letter ε → Bool) (l : Letter ε) (ls : List (Letter ε)) :
    ofKind p (l :: ls) = (if p l then [l] else []) ++ ofKind p ls := by
  by_cases h : p l <;> simp [ofKind, h]

/-- The letters of a kind are delivered, delivered by their sender itself, or in line, in this order. At most one is
delivered by its sender itself, and then none is in line. -/
structure Queued (p : Letter ε → Bool) (t : Traffic ε) : Prop where
  split : ofKind p t.sent = ofKind p t.delivered ++ (ofKind p (directs t.waiting) ++ ofKind p t.line)
  ahead : ofKind p (directs t.waiting) ≠ [] → ofKind p t.line = []
  one : (ofKind p (directs t.waiting)).length ≤ 1

theorem queued_start (p : Letter ε → Bool) (visible : Bool) : Queued p (start visible) :=
  ⟨rfl, fun _ => rfl, Nat.zero_le 1⟩

section

variable {t t' : Traffic ε} {p : Letter ε → Bool}

/-- The first letter in line may be delivered: none of its kind is delivered by its sender itself. -/
theorem Queued.deliver_head (h : Queued p t) {l : Letter ε} {ls : List (Letter ε)} (hl : t.line = l :: ls) :
    ofKind p t.sent = ofKind p (t.delivered ++ [l]) ++ (ofKind p (directs t.waiting) ++ ofKind p ls) ∧
    (ofKind p (directs t.waiting) ≠ [] → ofKind p ls = []) := by
  obtain ⟨hsplit, hahead, -⟩ := h
  rw [hl, ofKind_cons] at hsplit hahead
  by_cases hp : p l
  · have hnone : ofKind p (directs t.waiting) = [] := by
      by_contra hne
      simpa [hp] using hahead hne
    rw [hnone] at hsplit ⊢
    simpa [ofKind_cons, hp] using hsplit
  · rw [if_neg hp, List.nil_append] at hsplit hahead
    simpa [ofKind_cons, hp] using ⟨hsplit, hahead⟩

/-- Letters of a kind stay in their order when one is sent only while none is delivered by its sender itself. -/
theorem queued_shift {m : Move ε} (hs : Shift t m t') (hm : m.Smooth) (hone : t.OneReplay)
    (hopen : t.outbox.closed = false)
    (hflow : t.outbox.visible = true → t.outbox.draining = false → t.outbox.queue = [])
    (hfree : ∀ task e, m = .send task e → p (t.nextLetter task e) → ofKind p (directs t.waiting) = [])
    (h : Queued p t) : Queued p t' := by
  obtain ⟨hsplit, hahead, hlen⟩ := h
  cases hs with
  | idle => exact ⟨hsplit, hahead, hlen⟩
  | hold => exact ⟨hsplit, hahead, hlen⟩
  | still => exact ⟨hsplit, hahead, hlen⟩
  | close => exact hm.elim
  | refuse _ _ _ hc => exact absurd (hc.symm.trans hopen) (by simp)
  | putBack => cases hm
  | direct task e hv hq hd =>
    have hl : t.line = [] := by simp [line, hone.none hd, hq]
    have hfree' := hfree task e rfl
    rw [hl] at hsplit
    by_cases hp : p (t.nextLetter task e)
    · rw [hfree' hp] at hsplit
      constructor <;> simp [line, delivered, List.filterMap_cons, ofKind_cons, hone.none hd, hq, hp, hfree' hp, hsplit]
    · constructor <;> simp [line, delivered, List.filterMap_cons, ofKind_cons, hone.none hd, hq, hp, hsplit, hlen]
  | enqueue task e _ hb =>
    have hfree' := hfree task e rfl
    simp only [line, delivered, ofKind_append] at hsplit hahead
    by_cases hp : p (t.nextLetter task e)
    · rw [hfree' hp] at hsplit
      constructor <;> simp [line, delivered, ofKind_cons, hp, hfree' hp, hsplit]
    · refine ⟨?_, ?_, hlen⟩ <;> simp only [line, delivered, ofKind_append, ofKind_cons, hp, if_false, ofKind_nil,
        List.append_nil, Bool.false_eq_true]
      · exact hsplit
      · exact hahead
  | enqueueReplay task e h' rest hv hd hq =>
    obtain ⟨rfl, rfl⟩ : t.nextLetter task e = h' ∧ [] = rest := by simpa [hflow hv hd] using hq
    have hl : t.line = [] := by simp [line, hone.none hd, hflow hv hd]
    have hfree' := hfree task e rfl
    rw [hl] at hsplit
    by_cases hp : p (t.nextLetter task e)
    · rw [hfree' hp] at hsplit
      constructor <;> simp [line, delivered, List.filterMap_cons, ofKind_cons, hone.none hd, hp, hfree' hp, hsplit]
    · constructor <;> simp [line, delivered, List.filterMap_cons, ofKind_cons, hone.none hd, hp, hsplit, hlen]
  | replay _ task h' rest _ hd hq =>
    have hl : t.line = h' :: rest := by simp [line, hone.none hd, hq]
    rw [hl] at hsplit hahead
    constructor
    · simpa [line, delivered, List.filterMap_cons, hone.none hd] using hsplit
    · simpa [line, hone.none hd] using hahead
    · simpa using hlen
  | settleDirect task r c l l₁ l₂ hw =>
    obtain rfl : r = .ok () := hm
    have hline : t.line = replayed (l₁ ++ l₂) ++ t.outbox.queue := by simp [line, hw]
    rw [hline, hw] at hsplit hahead
    rw [hw] at hlen
    by_cases hp : p l
    · -- it was the one letter of its kind that was not in line, and none was in line
      have hnone : ofKind p (replayed (l₁ ++ l₂) ++ t.outbox.queue) = [] := hahead (by simp [ofKind_cons, hp])
      obtain ⟨h₁, h₂⟩ : ofKind p (directs l₁) = [] ∧ ofKind p (directs l₂) = [] := by
        simp only [directs_append, directs_direct, ofKind_append, ofKind_cons, hp, if_true, List.length_append,
          List.length_singleton] at hlen
        exact ⟨List.length_eq_zero_iff.1 (by omega), List.length_eq_zero_iff.1 (by omega)⟩
      rw [hnone] at hsplit
      constructor
      · simpa [line, delivered, ofKind_cons, hp, h₁, h₂, hsplit] using hnone
      · simp [h₁, h₂]
      · simp [h₁, h₂]
    · have hrest : ofKind p (directs (l₁ ++ ⟨task, c, .direct l⟩ :: l₂)) = ofKind p (directs (l₁ ++ l₂)) := by
        simp [ofKind_cons, hp]
      rw [hrest] at hsplit hahead hlen
      refine ⟨?_, hahead, hlen⟩
      simpa [line, delivered, ofKind_cons, hp] using hsplit
  | replayNext task c l h' n rest l₁ l₂ hw hv hq =>
    obtain ⟨h₁, h₂, -⟩ := hone.alone hw
    have hl : t.line = l :: h' :: rest := by simp [line, hw, hq, h₁, h₂]
    obtain ⟨hsplit', hahead'⟩ := Queued.deliver_head ⟨hsplit, hahead, hlen⟩ hl
    rw [hw] at hsplit' hahead' hlen
    constructor
    · simpa [line, delivered, List.filterMap_cons, h₁, h₂] using hsplit'
    · simpa [line, h₁, h₂] using hahead'
    · simpa using hlen
  | replayEnd task c l n l₁ l₂ _ hw =>
    obtain ⟨h₁, h₂, -⟩ := hone.alone hw
    have hl : t.line = l :: t.outbox.queue := by simp [line, hw, h₁, h₂]
    obtain ⟨hsplit', hahead'⟩ := Queued.deliver_head ⟨hsplit, hahead, hlen⟩ hl
    rw [hw] at hsplit' hahead' hlen
    constructor
    · simpa [line, delivered, h₁, h₂] using hsplit'
    · simpa [line, h₁, h₂] using hahead'
    · simpa using hlen

end

theorem Served.queued {t : Traffic ε} (h : t.Served) (i : Nat) : Queued (fun l => l.sender = i) t :=
  ⟨h.split i, h.ahead i, h.one_direct i⟩

/-- The letters of every sender stay in their order. -/
theorem split_shift {t t' : Traffic ε} {m : Move ε} (hs : Shift t m t') (hp : t.Patient m) (hm : m.Smooth)
    (h : t.Served) (i : Nat) :
    lettersOf i t'.sent = lettersOf i t'.delivered ++ (lettersOf i (directs t'.waiting) ++ lettersOf i t'.line) ∧
    (lettersOf i (directs t'.waiting) ≠ [] → lettersOf i t'.line = []) := by
  have hqueued : Queued (fun l => l.sender = i) t' := by
    refine queued_shift hs hm h.oneReplay h.unclosed h.flowing (fun task e hsend hi => ?_) (h.queued i)
    subst hsend
    obtain rfl : task = i := of_decide_eq_true hi
    exact h.none_direct hp
  exact ⟨hqueued.split, hqueued.ahead⟩

theorem flowing_shift {t t' : Traffic ε} {m : Move ε} (hs : Shift t m t') (hm : m.Smooth) (h : t.Served) :
    t'.outbox.visible = true → t'.outbox.draining = false → t'.outbox.queue = [] := by
  cases hs with
  | idle => exact h.flowing
  | hold => simp
  | still _ _ _ hq => exact hq
  | close => exact hm.elim
  | refuse => exact h.flowing
  | putBack => cases hm
  | direct => exact h.flowing
  | enqueue _ _ _ hb =>
    intro hv hd
    rcases hb with hb | hb
    · exact absurd (hv.symm.trans hb) (by simp)
    · exact absurd (hd.symm.trans hb) (by simp)
  | enqueueReplay => simp
  | replay => simp
  | settleDirect => exact h.flowing
  | replayNext task c l h' n rest l₁ l₂ hw =>
    intro _ hd
    exact absurd (hd.symm.trans (h.oneReplay.alone hw).2.2) (by simp)
  | replayEnd _ _ _ _ _ _ _ _ hb =>
    intro hv _
    rcases hb with hb | hb
    · exact absurd (hv.symm.trans hb) (by simp)
    · exact hb

theorem once_shift {t t' : Traffic ε} {m : Move ε} (hs : Shift t m t') (hp : t.Patient m)
    (h : (t.waiting.map (·.task)).Nodup) : (t'.waiting.map (·.task)).Nodup := by
  -- a task that was idle waits now
  have hjoin : ∀ {ws : List (Routine ε)} {w : Routine ε}, (ws.map (·.task)).Nodup → (∀ w' ∈ ws, w'.task ≠ w.task) →
      ((ws ++ [w]).map (·.task)).Nodup := by
    intro ws w hws hne
    rw [List.map_append, List.map_singleton]
    refine List.Nodup.append hws (List.nodup_singleton _) ?_
    simpa using hne
  have hleave : ∀ {w : Routine ε} {l₁ l₂ : List (Routine ε)}, t.waiting = l₁ ++ w :: l₂ →
      ((l₁ ++ l₂).map (·.task)).Nodup := fun hw =>
    ((((List.sublist_cons_self _ _).append_left _).map _).nodup) (hw ▸ h)
  cases hs with
  | direct => exact hjoin h hp
  | enqueueReplay => exact hjoin h hp
  | replay _ _ _ _ hm =>
    rcases hm with rfl | rfl
    · exact hjoin h hp
    · exact hjoin h hp
  | settleDirect _ _ _ _ _ _ hw => exact hleave hw
  | replayNext _ _ _ _ _ _ _ _ hw => exact hjoin (hleave hw) (others_of_nodup (hw ▸ h))
  | replayEnd _ _ _ _ _ _ _ hw => exact hleave hw
  | putBack _ _ _ _ _ _ _ _ hw => exact hleave hw
  | _ => exact h

theorem served_shift {t t' : Traffic ε} {m : Move ε} (hs : Shift t m t') (hp : t.Patient m) (hm : m.Smooth)
    (h : t.Served) : t'.Served where
  oneReplay := oneReplay_shift hs h.oneReplay
  once := once_shift hs hp h.once
  own w hw l hl := by
    rcases mem_waiting_shift hs hw with hw | ⟨task, e, -, rfl⟩ | ⟨l', n, hr⟩
    · exact h.own w hw l hl
    · obtain rfl : t.nextLetter task e = l := by simpa using hl
      rfl
    · rw [hr] at hl
      cases hl
  unclosed := by
    cases hs with
    | close => exact hm.elim
    | _ => exact h.unclosed
  flowing := flowing_shift hs hm h
  split i := (split_shift hs hp hm h i).1
  ahead i := (split_shift hs hp hm h i).2

/-- One move keeps the letters of a kind in their order, when it sends none while one is on the direct way. -/
theorem Served.queued_step {t : Traffic ε} (hs : t.Served) {p : Letter ε → Bool} (h : Queued p t) {m : Move ε}
    (hm : m.Smooth) (hfree : ∀ task e, m = .send task e → p (t.nextLetter task e) → ofKind p (directs t.waiting) = []) :
    Queued p (t.step m) := queued_shift (step_shift t m) hm hs.oneReplay hs.unclosed hs.flowing hfree h

/-- One move that sends nothing keeps the letters of a kind in their order. -/
theorem Served.queued_quiet {t : Traffic ε} (hs : t.Served) {p : Letter ε → Bool} (h : Queued p t) {m : Move ε}
    (hm : m.Smooth) (hquiet : ∀ task e, m ≠ .send task e) : Queued p (t.step m) :=
  hs.queued_step h hm fun task e hsend => absurd hsend (hquiet task e)

/-! ## What is delivered -/

/-- The letters of a kind are delivered in the order of their sends. -/
theorem Queued.delivered_begins {p : Letter ε → Bool} {t : Traffic ε} (h : Queued p t) :
    ofKind p t.delivered <+: ofKind p t.sent := ⟨_, h.split.symm⟩

/-- On a visible surface without a replay all letters of a kind are delivered that are not on the direct way. -/
theorem Queued.delivered_all {p : Letter ε → Bool} {t : Traffic ε} (h : Queued p t) (hs : t.Served)
    (hv : t.outbox.visible = true) (hd : t.outbox.draining = false) (hnone : ofKind p (directs t.waiting) = []) :
    ofKind p t.delivered = ofKind p t.sent := by
  have hl : t.line = [] := by simp [line, hs.oneReplay.none hd, hs.flowing hv hd]
  simpa [hnone, hl] using h.split.symm

/-- The letters of a sender are delivered in the order of their sends. -/
theorem Served.delivered_prefix {t : Traffic ε} (h : t.Served) (i : Nat) :
    lettersOf i t.delivered <+: lettersOf i t.sent := (h.queued i).delivered_begins

/-- On a visible surface without a replay all letters of an idle sender are delivered. -/
theorem Served.delivered_all {t : Traffic ε} (h : t.Served) (hv : t.outbox.visible = true)
    (hd : t.outbox.draining = false) {i : Nat} (hi : t.Idle i) : lettersOf i t.delivered = lettersOf i t.sent :=
  (h.queued i).delivered_all h hv hd (h.none_direct hi)

end Traffic

end ChatRelay.Outbox
