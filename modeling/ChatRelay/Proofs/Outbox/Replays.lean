import ChatRelay.Proofs.Outbox.Traffic

/-!
# How replays end

A replay ends when the queue is empty, when the surface was hidden, or when a delivery fails, which puts its letter back
in front. A release begins a new one unless one is running, and a letter that is sent to a visible surface begins one
when nobody takes the queue. So only a failed replay can leave letters in the queue of a visible surface.

- `Ending`, `Traffic.ending?`, `Traffic.endings`: how the replays of a schedule have ended, in order;
- `Traffic.Retained`: what is known of letters that nobody replays on a visible surface (`Traffic.retained_step`);
- `Traffic.kept_behind_failure`: the last replay has failed, and the first of them is the letter that it has put back.
-/

namespace ChatRelay.Outbox

variable {ε : Type}

/-- How a replay has ended. -/
inductive Ending (ε : Type)
  /-- The queue was empty, or the surface was hidden. -/
  | over
  /-- The delivery of a letter has failed. -/
  | broken (l : Letter ε) (f : Fault)

/-- Whether a routine reports that its replay is over. -/
def Report.isReplayed : Report ε → Bool
  | .replayed _ => true
  | _ => false

namespace Traffic

/-! ## The endings of a schedule -/

/-- The routine that goes on with a move. -/
def routine? (t : Traffic ε) : Move ε → Option (Routine ε)
  | .settle task _ => t.waiting.find? (·.task = task)
  | _ => none

/-- The turn that a routine takes with a move. -/
def turn? (t : Traffic ε) : Move ε → Option (Turn (Letter ε))
  | .send task e => some (t.outbox.send (t.nextLetter task e))
  | .release _ => some t.outbox.release
  | .flush _ => some t.outbox.flush
  | .settle task r => (t.routine? (.settle task r)).map fun w => t.outbox.resume w.point r
  | _ => none

/-- The letter of a replay whose delivery fails with a move. -/
def broken? (t : Traffic ε) : Move ε → Option (Letter ε × Fault)
  | .settle task (.error f) => (t.routine? (.settle task (.error f))).bind fun w => w.point.replayed?.map (·, f)
  | _ => none

/-- How a replay ends with a move, if one does. A replay of a hidden surface is over with the move that begins it. -/
def ending? (t : Traffic ε) (m : Move ε) : Option (Ending ε) :=
  match t.broken? m with
  | some (l, f) => some (.broken l f)
  | none => if (t.turn? m).any (·.reports.any Report.isReplayed) then some .over else none

/-- How the replays of a schedule end, in order. -/
def endings (t : Traffic ε) : List (Move ε) → List (Ending ε)
  | [] => []
  | m :: moves => (t.ending? m).toList ++ (t.step m).endings moves

/-! ## Letters that nobody replays -/

/-- When letters are queued on a visible surface and nobody replays them, the last replay has failed, and the first of
them is the letter that it has put back. -/
def Retained (t : Traffic ε) (past : List (Ending ε)) : Prop :=
  t.outbox.visible = true → t.outbox.draining = false → t.outbox.queue ≠ [] →
    ∃ l f n, past.getLast? = some (.broken l f) ∧ t.outbox.queue.head? = some l ∧ .failed (.replaying l n) f ∈ t.log

theorem retained_start (visible : Bool) : (start visible : Traffic ε).Retained [] := fun _ _ hq => absurd rfl hq

/-- A move that ends no replay and leaves the outbox as it was. -/
theorem Retained.same {t t' : Traffic ε} {past : List (Ending ε)} (h : t.Retained past) (ho : t'.outbox = t.outbox)
    (hl : t.log <+: t'.log) : t'.Retained past := by
  intro hv hd hq
  rw [ho] at hv hd hq ⊢
  obtain ⟨l, f, n, hlast, hhead, hlog⟩ := h hv hd hq
  exact ⟨l, f, n, hlast, hhead, hl.subset hlog⟩

/-- A letter that is sent to a closed outbox ends no replay. -/
theorem ending_closed {t : Traffic ε} (hc : t.outbox.closed = true) (task : Nat) (e : ε) :
    t.ending? (.send task e) = none := by
  simp [ending?, broken?, turn?, send, hc, finish, Report.isReplayed]

/-- The end of a delivery. -/
theorem retained_settle {t : Traffic ε} {past : List (Ending ε)} (hone : t.OneReplay) (h : t.Retained past)
    (task : Nat) (r : Except Fault Unit) :
    (t.settle task r).Retained (past ++ (t.ending? (.settle task r)).toList) := by
  unfold settle
  cases hw : t.waiting.find? (·.task = task) with
  | none =>
    have hnone : t.ending? (.settle task r) = none := by cases r <;> simp [ending?, broken?, turn?, routine?, hw]
    simpa [hnone] using h
  | some w =>
    obtain ⟨task', c, pt⟩ := w
    cases pt with
    | direct l =>
      have hnone : t.ending? (.settle task r) = none := by
        cases r <;> simp [ending?, broken?, turn?, routine?, hw, resume, Point.replayed?]
      rw [hnone, Option.toList_none, List.append_nil]
      exact h.same rfl (List.prefix_append _ _)
    | replaying l n =>
      cases r with
      | error f =>
        have hbroken : t.ending? (.settle task (.error f)) = some (.broken l f) := by
          simp [ending?, broken?, routine?, hw, Point.replayed?]
        rw [hbroken]
        exact fun _ _ _ => ⟨l, f, n, by simp, rfl, List.mem_append_right _ (List.mem_singleton_self _)⟩
      | ok _ =>
        -- a replay that goes on or is over leaves nothing behind on a visible surface
        obtain ⟨l₁, l₂, -, hl, -⟩ := waiting_split hw
        have hdraining : t.outbox.draining = true := (hone.alone hl).2.2
        intro hv hd hq
        simp only [resume] at hv hd hq
        rcases replay_cases t.outbox (n + 1) with ⟨hs, hr⟩ | ⟨l', rest, -, -, hr⟩
        · rw [hr] at hv hq
          rcases hs with hs | hs
          · exact absurd (hs.symm.trans hv) (by simp)
          · exact absurd hs hq
        · rw [hr] at hd
          exact absurd (hdraining.symm.trans hd) (by simp)

/-- A move that is not the end of a delivery leaves no letters behind on a visible surface, unless the outbox is closed
and refuses a letter. -/
theorem queue_nil_of_shift {t t' : Traffic ε} {m : Move ε} (hs : Shift t m t') (hm : ∀ task r, m ≠ .settle task r)
    (hv : t'.outbox.visible = true) (hd : t'.outbox.draining = false) :
    t'.outbox.queue = [] ∨ t.outbox.closed = true ∧ ∃ task e, m = .send task e := by
  cases hs with
  | hold => cases hv
  | still _ visible _ hstill => exact .inl (hstill hv hd)
  | refuse task e _ hc => exact .inr ⟨hc, task, e, rfl⟩
  | direct _ _ _ hq => exact .inl hq
  | enqueue _ _ _ hwait =>
    rcases hwait with hhidden | hdraining
    · cases hhidden.symm.trans hv
    · cases hdraining.symm.trans hd
  | enqueueReplay => cases hd
  | replay => cases hd
  | close => cases hv
  | _ => exact absurd rfl (hm _ _)

/-- A letter that is sent. -/
theorem retained_post {t : Traffic ε} {past : List (Ending ε)} (h : t.Retained past) (task : Nat) (e : ε) :
    (t.step (.send task e)).Retained (past ++ (t.ending? (.send task e)).toList) := by
  by_cases hc : t.outbox.closed = true
  · rw [ending_closed hc, Option.toList_none, List.append_nil]
    refine h.same ?_ ?_
    · simp [step, post, send, hc, finish, after, note]
    · simp [step, post, send, hc, finish, after, note]
  · intro hv hd hq
    rcases queue_nil_of_shift (step_shift t (.send task e)) (by simp) hv hd with hnil | ⟨hclosed, -⟩
    · exact absurd hnil hq
    · exact absurd hclosed hc

theorem retained_step {t : Traffic ε} {past : List (Ending ε)} (hone : t.OneReplay) (h : t.Retained past) (m : Move ε) :
    (t.step m).Retained (past ++ (t.ending? m).toList) := by
  cases m with
  | settle task r => exact retained_settle hone h task r
  | send task e => exact retained_post h task e
  | _ =>
    intro hv hd hq
    rcases queue_nil_of_shift (step_shift t _) (by simp) hv hd with hnil | ⟨-, task, e, hm⟩
    · exact absurd hnil hq
    · cases hm

theorem retained_run {t : Traffic ε} {past : List (Ending ε)} (hone : t.OneReplay) (h : t.Retained past)
    (moves : List (Move ε)) : (t.run moves).Retained (past ++ t.endings moves) := by
  induction moves generalizing t past with
  | nil => simpa [endings, run] using h
  | cons m moves ih =>
    have hrest := ih (oneReplay_shift (step_shift t m) hone) (retained_step hone h m)
    rwa [List.append_assoc] at hrest

/-! ## Behind a failure -/

/-- No routine has a delivery of a replay under way exactly when the outbox says so. -/
theorem OneReplay.draining_iff {t : Traffic ε} (h : t.OneReplay) :
    t.outbox.draining = false ↔ ∀ w ∈ t.waiting, w.point.replayed? = Option.none := by
  rw [← List.filterMap_eq_nil_iff]
  constructor
  · exact h.none
  · intro hnil
    unfold OneReplay replayed at h
    rw [hnil] at h
    cases hd : t.outbox.draining with
    | true => simp [hd] at h
    | false => rfl

/-- **Letters wait on a visible surface only behind a failed replay.** In every state that a schedule leads to, when the
surface is visible, no replay is running and letters are queued, the last replay that has ended was broken off by a
failed delivery, and the first of the queue is the letter whose delivery has failed. As long as no delivery has failed,
nothing is queued there. -/
theorem kept_behind_failure (visible : Bool) (moves : List (Move ε)) :
    let t := (start visible : Traffic ε).run moves
    t.outbox.visible = true → (∀ w ∈ t.waiting, w.point.replayed? = none) →
      (t.outbox.queue ≠ [] → ∃ l f n, ((start visible).endings moves).getLast? = some (.broken l f) ∧
        t.outbox.queue.head? = some l ∧ .failed (.replaying l n) f ∈ t.log) ∧
      ((∀ pt f, .failed pt f ∉ t.log) → t.outbox.queue = []) := by
  intro t hv hreplay
  have hone : t.OneReplay := run_induction (P := OneReplay) oneReplay_shift (oneReplay_start visible) moves
  have hretained : t.Retained ((start visible).endings moves) :=
    retained_run (oneReplay_start visible) (retained_start visible) moves
  have hkept := hretained hv (hone.draining_iff.2 hreplay)
  refine ⟨hkept, fun hcalm => ?_⟩
  by_contra hq
  obtain ⟨l, f, n, -, -, hlog⟩ := hkept hq
  exact hcalm _ _ hlog

/-- A delivery is under way when the surface is hidden. Two more letters come; the surface is shown, the replay fails
at the first of them, and after it the delivery that was under way. -/
def brokenReplay : List (Move String) :=
  [.send 0 "a", .hold, .send 1 "b", .flush 2, .send 3 "c", .release 4, .settle 4 (.error .fileSystem),
    .settle 0 (.error .badValue)]

/-- The two letters wait behind the failure, the one that was put back in front. -/
theorem brokenReplay_kept :
    let t := (start true).run brokenReplay
    t.outbox.visible = true ∧ (∀ w ∈ t.waiting, w.point.replayed? = none) ∧
      t.outbox.queue = [⟨1, 1, "b"⟩, ⟨2, 3, "c"⟩] ∧
      (start true).endings brokenReplay = [.over, .broken ⟨1, 1, "b"⟩ .fileSystem] ∧
      ∃ l f n, ((start true).endings brokenReplay).getLast? = some (.broken l f) ∧
        t.outbox.queue.head? = some l ∧ .failed (.replaying l n) f ∈ t.log := by
  have hreplay : ∀ w ∈ ((start true).run brokenReplay).waiting, w.point.replayed? = none := fun w hw => nomatch hw
  have hqueue : ((start true).run brokenReplay).outbox.queue = [⟨1, 1, "b"⟩, ⟨2, 3, "c"⟩] := rfl
  refine ⟨rfl, hreplay, hqueue, rfl, ?_⟩
  exact (kept_behind_failure true brokenReplay rfl hreplay).1 (by simp [hqueue])

end Traffic

end ChatRelay.Outbox
