import ChatRelay.Proofs.Outbox.Traffic

/-!
# A closed outbox

A closed outbox takes no more letters, but a replay whose delivery is still running has taken one before. When that
delivery fails, its letter goes back into the queue, and the next replay takes it from there.

- `Traffic.returned`: the letters that failed replays have put back;
- `Traffic.post_closed`: a letter that is sent to a closed outbox goes nowhere;
- `Traffic.Shut`: what is true from a closing on, whatever happens;
- `Traffic.closed_for_good_iff`: the queue stays empty and no delivery is begun exactly when no replay fails;
- `Traffic.lateFailure_delivers`: a letter that is put back after the closing is delivered once more.
-/

namespace ChatRelay.Outbox

variable {ε : Type}

/-- The letter that a failed replay has put back. -/
@[simp] def Entry.returned? : Entry ε → Option (Letter ε)
  | .failed (.replaying l _) _ => some l
  | _ => none

namespace Traffic

/-- The letters that failed replays have put back, in the order in which they were put back. -/
def returned (t : Traffic ε) : List (Letter ε) := t.log.filterMap Entry.returned?

/-! ## Sends to a closed outbox -/

/-- A letter that is sent to a closed outbox goes nowhere. -/
theorem post_closed {t : Traffic ε} (h : t.outbox.closed = true) (task : Nat) (e : ε) :
    t.step (.send task e) = { t with
      sent := t.sent ++ [t.nextLetter task e]
      log := t.log ++ [.refused (t.nextLetter task e)]
      ended := t.ended ++ [(some (t.nextLetter task e), .ok ())] } := by
  simp [step, post, h, send, finish, after, note]

/-! ## From a closing on -/

/-- What is true from a closing on. Only letters that a replay held at the closing can still be in line, and as long as
none of them was put back, the queue is empty and no delivery was begun. -/
structure Shut (t₀ t : Traffic ε) : Prop where
  closed : t.outbox.closed = true
  line : t.line ⊆ t₀.line
  begun : ∃ more, t.begun = t₀.begun ++ more ∧ ∀ b ∈ more, b.1 ∈ t₀.line
  returned : t₀.returned <+: t.returned
  calm : t.returned = t₀.returned → t.outbox.queue = [] ∧ t.begun = t₀.begun

theorem shut_refl {t : Traffic ε} (hc : t.outbox.closed = true) (hq : t.outbox.queue = []) : Shut t t where
  closed := hc
  line := List.Subset.refl _
  begun := ⟨[], by simp⟩
  returned := List.prefix_rfl
  calm := fun _ => ⟨hq, rfl⟩

/-- A move that begins no delivery and puts no letter back. -/
theorem Shut.still {t₀ t t' : Traffic ε} (h : Shut t₀ t) (hc : t'.outbox.closed = true) (hl : t'.line ⊆ t.line)
    (hb : t'.begun = t.begun) (hr : t'.returned = t.returned) (hq : t.outbox.queue = [] → t'.outbox.queue = []) :
    Shut t₀ t' where
  closed := hc
  line := List.Subset.trans hl h.line
  begun := hb ▸ h.begun
  returned := hr ▸ h.returned
  calm := by
    intro hsame
    obtain ⟨hempty, hbegun⟩ := h.calm (hr ▸ hsame)
    exact ⟨hq hempty, hb.trans hbegun⟩

/-- A replay takes the next letter. There is none unless one was put back. -/
theorem Shut.take {t₀ t t' : Traffic ε} (h : Shut t₀ t) {l : Letter ε} {v : Bool} {rest : List (Letter ε)}
    (hq : t.outbox.queue = l :: rest) (hc : t'.outbox.closed = true) (hl : t'.line ⊆ t.line)
    (hb : t'.begun = t.begun ++ [(l, v)]) (hr : t'.returned = t.returned) : Shut t₀ t' where
  closed := hc
  line := List.Subset.trans hl h.line
  begun := by
    obtain ⟨more, hmore, hmem⟩ := h.begun
    have hl : l ∈ t₀.line := h.line (by simp [Traffic.line, hq])
    refine ⟨more ++ [(l, v)], by rw [hb, hmore, List.append_assoc], ?_⟩
    intro b hb
    rcases List.mem_append.1 hb with hb | hb
    · exact hmem b hb
    · rwa [List.mem_singleton.1 hb]
  returned := hr ▸ h.returned
  calm := by
    intro hsame
    have hempty := (h.calm (hr ▸ hsame)).1
    rw [hq] at hempty
    cases hempty

/-- A delivery of a replay fails. -/
theorem Shut.putBack {t₀ t t' : Traffic ε} (h : Shut t₀ t) {l : Letter ε} (hc : t'.outbox.closed = true)
    (hl : t'.line ⊆ t.line) (hb : t'.begun = t.begun) (hr : t'.returned = t.returned ++ [l]) : Shut t₀ t' where
  closed := hc
  line := List.Subset.trans hl h.line
  begun := hb ▸ h.begun
  returned := by
    rw [hr]
    exact h.returned.trans (List.prefix_append _ _)
  calm := by
    intro hsame
    have hlength := h.returned.length_le
    rw [hr] at hsame
    rw [← hsame, List.length_append, List.length_singleton] at hlength
    omega

/-- A release or a flush. -/
theorem shut_flush {t₀ t t' : Traffic ε} {m : Move ε} {task : Nat} (hm : m = .release task ∨ m = .flush task)
    (hs : Shift t m t') (h : Shut t₀ t) : Shut t₀ t' := by
  have hreplay {l : Letter ε} {rest : List (Letter ε)} (hq : t.outbox.queue = l :: rest) : Shut t₀ { t with
      outbox.visible := true
      outbox.queue := rest
      outbox.draining := true
      waiting := t.waiting ++ [⟨task, none, .replaying l 0⟩]
      log := t.log ++ [.begun l true] } := by
    apply h.take (v := true) hq
    · exact h.closed
    · simp [line, hq]
    · simp [begun]
    · simp [returned, List.filterMap_cons]
  have hstill (visible : Bool) (es) : Shut t₀ { t with outbox.visible := visible, ended := t.ended ++ es } :=
    h.still h.closed (List.Subset.refl _) rfl rfl id
  rcases hm with rfl | rfl
  · cases hs with
    | still _ visible es => exact hstill visible es
    | replay _ _ l rest hm _ hq =>
      obtain rfl : task = _ := by simpa using hm
      exact hreplay hq
  · cases hs with
    | still _ visible es => exact hstill visible es
    | replay _ _ l rest hm _ hq =>
      obtain rfl : task = _ := by simpa using hm
      exact hreplay hq

/-- The end of a delivery. -/
theorem shut_settle {t₀ t t' : Traffic ε} {task : Nat} {r : Except Fault Unit} (hs : Shift t (.settle task r) t')
    (h : Shut t₀ t) : Shut t₀ t' := by
  cases hs with
  | idle => exact h
  | still => exact h.still h.closed (List.Subset.refl _) rfl rfl id
  | replay _ _ _ _ hm => simp at hm
  | settleDirect _ _ c l l₁ l₂ hw =>
    apply h.still
    · exact h.closed
    · simp [line, hw]
    · cases r <;> simp [begun, List.filterMap_cons]
    · cases r <;> simp [returned, List.filterMap_cons]
    · exact id
  | replayNext _ c l l' n rest l₁ l₂ hw _ hq =>
    apply h.take (v := t.outbox.visible) hq
    · exact h.closed
    · intro a
      simp only [line, hw, hq, replayed_append, replayed_replaying, replayed_nil, List.mem_append, List.mem_cons]
      grind
    · simp [begun, List.filterMap_cons]
    · simp [returned, List.filterMap_cons]
  | replayEnd _ c l n l₁ l₂ _ hw =>
    apply h.still
    · exact h.closed
    · intro a
      simp only [line, hw, replayed_append, replayed_replaying, List.mem_append, List.mem_cons]
      grind
    · simp [begun, List.filterMap_cons]
    · simp [returned, List.filterMap_cons]
    · exact id
  | putBack _ f c l n l₁ l₂ _ hw =>
    apply h.putBack (l := l)
    · exact h.closed
    · intro a
      simp only [line, hw, replayed_append, replayed_replaying, List.mem_append, List.mem_cons]
      grind
    · simp [begun, List.filterMap_cons]
    · simp [returned]

theorem shut_step {t₀ t : Traffic ε} (h : Shut t₀ t) (m : Move ε) : Shut t₀ (t.step m) := by
  cases m with
  | send task e =>
    rw [post_closed h.closed]
    apply h.still
    · exact h.closed
    · exact List.Subset.refl _
    · simp [begun, List.filterMap_cons]
    · simp [returned, List.filterMap_cons]
    · exact id
  | hold => exact h.still h.closed (List.Subset.refl _) rfl rfl id
  | close =>
    apply h.still
    · rfl
    · simp [line, step, Outbox.close, note]
    · simp [begun, step, note, List.filterMap_cons]
    · simp [returned, step, note, List.filterMap_cons]
    · intro _
      rfl
  | release task => exact shut_flush (.inl rfl) (step_shift t (.release task)) h
  | flush task => exact shut_flush (.inr rfl) (step_shift t (.flush task)) h
  | settle task r => exact shut_settle (step_shift t (.settle task r)) h

theorem shut_run {t₀ t : Traffic ε} (h : Shut t₀ t) (moves : List (Move ε)) : Shut t₀ (t.run moves) := by
  induction moves generalizing t with
  | nil => exact h
  | cons m moves ih => exact ih (shut_step h m)

/-! ## What is put back is seen in the queue -/

/-- A move that leaves the queue empty puts no letter back. -/
theorem returned_of_queue_nil {t t' : Traffic ε} {m : Move ε} (hs : Shift t m t') (h : t'.outbox.queue = []) :
    t'.returned = t.returned := by
  cases hs with
  | putBack => cases h
  | settleDirect _ r => cases r <;> simp [returned, List.filterMap_cons]
  | _ => simp [returned, List.filterMap_cons]

/-- Nothing that has happened is forgotten. -/
theorem log_shift {t t' : Traffic ε} {m : Move ε} (hs : Shift t m t') : t.log <+: t'.log := by
  cases hs with
  | replayNext => exact (List.prefix_append _ _).trans (List.prefix_append _ _)
  | idle => exact List.prefix_rfl
  | hold => exact List.prefix_rfl
  | still => exact List.prefix_rfl
  | enqueue => exact List.prefix_rfl
  | _ => exact List.prefix_append _ _

theorem log_run (t : Traffic ε) (moves : List (Move ε)) : t.log <+: (t.run moves).log := by
  induction moves generalizing t with
  | nil => exact List.prefix_rfl
  | cons m moves ih => exact (log_shift (step_shift t m)).trans (ih (t.step m))

/-- While the queue stays empty no letter is put back. -/
theorem returned_of_queues_nil {t : Traffic ε} {moves : List (Move ε)}
    (h : ∀ k, (t.run (moves.take k)).outbox.queue = []) : (t.run moves).returned = t.returned := by
  induction moves generalizing t with
  | nil => rfl
  | cons m moves ih =>
    have hfirst : (t.step m).returned = t.returned := returned_of_queue_nil (step_shift t m) (h 1)
    exact (ih fun k => h (k + 1)).trans hfirst

/-! ## For good -/

/-- **When a closing stops the deliveries for good.** From the closing of an outbox on, the queue stays empty and no
delivery is begun exactly when no replay fails that was running at the closing. Only a letter that was being replayed
then is delivered once more. -/
theorem closed_for_good_iff (visible : Bool) (before after : List (Move ε)) :
    let t := ((start visible : Traffic ε).run before).step .close
    ((∀ k, (t.run (after.take k)).outbox.queue = []) ∧ (t.run after).begun = t.begun ↔
      (t.run after).returned = t.returned) ∧
    ∀ l v, (l, v) ∈ (t.run after).begun.drop t.begun.length → l ∈ replayed t.waiting := by
  intro t
  have hshut (moves : List (Move ε)) : Shut t (t.run moves) := shut_run (shut_refl rfl rfl) moves
  refine ⟨⟨fun h => returned_of_queues_nil h.1, fun h => ⟨fun k => ?_, ((hshut after).calm h).2⟩⟩, fun l v hl => ?_⟩
  · -- what was not put back in the end was not put back before
    have hsplit : t.run after = (t.run (after.take k)).run (after.drop k) := by
      rw [run, run, run, ← List.foldl_append, List.take_append_drop]
    have hlater : (t.run (after.take k)).returned <+: (t.run after).returned := by
      rw [hsplit]
      exact (log_run _ _).filterMap _
    have hsame : (t.run (after.take k)).returned = t.returned :=
      (h ▸ hlater).eq_of_length_le (hshut _).returned.length_le
    exact ((hshut _).calm hsame).1
  · obtain ⟨more, hmore, hmem⟩ := (hshut after).begun
    rw [hmore, List.drop_left] at hl
    have hline : l ∈ t.line := hmem (l, v) hl
    rwa [line, show t.outbox.queue = [] from rfl, List.append_nil] at hline

/-- The outbox is closed while a letter is being replayed. -/
def closedInReplay : Traffic String := (start false).run [.send 0 "a", .release 1, .close]

/-- The replay fails, and the surface is shown once more. -/
def lateFailure : List (Move String) := [.settle 1 (.error .fileSystem), .release 2]

/-- The letter is put back into the queue of the closed outbox, and delivered once more. -/
theorem lateFailure_delivers :
    closedInReplay.outbox.closed = true ∧ closedInReplay.outbox.queue = [] ∧
      closedInReplay.begun = [(⟨0, 0, "a"⟩, true)] ∧
      (closedInReplay.run (lateFailure.take 1)).outbox.queue = [⟨0, 0, "a"⟩] ∧
      (closedInReplay.run lateFailure).begun = [(⟨0, 0, "a"⟩, true), (⟨0, 0, "a"⟩, true)] :=
  ⟨rfl, rfl, rfl, rfl, rfl⟩

end Traffic

end ChatRelay.Outbox
