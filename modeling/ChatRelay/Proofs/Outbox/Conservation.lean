import ChatRelay.Proofs.Outbox.Traffic
import Mathlib.Data.List.Nodup

/-!
# Letters are neither lost nor doubled

- `Traffic.places`: the letters delivered, in flight, in the queue, failed on the direct way, and dropped;
- `Traffic.places_shift`: one move takes letters from place to place and adds the letter that is sent, if any;
- `Traffic.Accounted`: a failed direct delivery is the failure of the send that carried its letter, and every closing
  tells how many letters it has dropped;
- `Traffic.letters_conserved`: every letter sent is in exactly one place.
-/

namespace ChatRelay.Outbox.Traffic

variable {ε : Type}

/-! ## Places -/

/-- All places where letters are. -/
def places (t : Traffic ε) : List (Letter ε) :=
  t.delivered ++ t.inFlight ++ t.outbox.queue ++ t.failed.map (·.1) ++ t.dropped

theorem places_shift {t t' : Traffic ε} {m : Move ε} (hs : Shift t m t') (h : t.places.Perm t.sent) :
    t'.places.Perm t'.sent := by
  classical
  rw [List.perm_iff_count] at h ⊢
  intro a
  replace h := h a
  simp only [places, delivered, inFlight, failed, dropped, List.count_append] at h ⊢
  cases hs with
  | idle => exact h
  | hold => exact h
  | still => exact h
  | refuse =>
    simp [List.filterMap_cons, List.count_cons] at h ⊢
    omega
  | direct =>
    simp [List.filterMap_cons, List.count_cons] at h ⊢
    omega
  | enqueue =>
    simp [List.count_cons] at h ⊢
    omega
  | enqueueReplay task e h' rest hv hd hq =>
    have hc := congrArg (List.count a) hq
    simp [List.filterMap_cons, List.count_cons] at h hc ⊢
    omega
  | replay _ task h' rest _ hd hq =>
    rw [hq] at h
    simp [List.filterMap_cons, List.count_cons] at h ⊢
    omega
  | close =>
    simp [List.filterMap_cons] at h ⊢
    omega
  | settleDirect task r c l l₁ l₂ hw =>
    rw [hw] at h
    cases r <;> simp [List.filterMap_cons, List.count_cons] at h ⊢ <;> omega
  | replayNext task c l h' n rest l₁ l₂ hw hv hq =>
    rw [hw, hq] at h
    simp [List.filterMap_cons, List.count_cons] at h ⊢
    omega
  | replayEnd task c l n l₁ l₂ _ hw =>
    rw [hw] at h
    simp [List.filterMap_cons, List.count_cons] at h ⊢
    omega
  | putBack task f c l n l₁ l₂ _ hw =>
    rw [hw] at h
    simp [List.filterMap_cons, List.count_cons] at h ⊢
    omega

/-! ## What the sends and the closings tell -/

/-- What has happened is told: a failed direct delivery to the send of its letter, the number of dropped letters to the
closing; and the outbox is closed when there was a closing. -/
structure Accounted (t : Traffic ε) : Prop where
  carried : ∀ w ∈ t.waiting, ∀ l, w.point = .direct l → w.carried = some l
  raised : ∀ l f, .failed (.direct l) f ∈ t.log → (some l, .error f) ∈ t.ended
  told : ∀ ls n, .closed ls n ∈ t.log → n = ls.length
  closed : t.outbox.closed = true ↔ ∃ ls n, .closed ls n ∈ t.log

theorem accounted_start (visible : Bool) : (start visible : Traffic ε).Accounted :=
  ⟨by simp [start], by simp [start], by simp [start], by simp [start, Outbox.new]⟩

theorem carried_shift {t t' : Traffic ε} {m : Move ε} (hs : Shift t m t')
    (h : ∀ w ∈ t.waiting, ∀ l, w.point = .direct l → w.carried = some l) :
    ∀ w ∈ t'.waiting, ∀ l, w.point = .direct l → w.carried = some l := by
  intro w hw l hl
  rcases mem_waiting_shift hs hw with hw | ⟨task, e, -, rfl⟩ | ⟨l', n, hr⟩
  · exact h w hw l hl
  · simpa using hl
  · rw [hr] at hl
    cases hl

theorem raised_shift {t t' : Traffic ε} {m : Move ε} (hs : Shift t m t') (h : t.Accounted) :
    ∀ l f, .failed (.direct l) f ∈ t'.log → (some l, .error f) ∈ t'.ended := by
  have hr := h.raised
  cases hs with
  | settleDirect task r c l l₁ l₂ hw =>
    have hc : c = some l := h.carried ⟨task, c, .direct l⟩ (by simp [hw]) l rfl
    intro l' f hf
    rcases List.mem_append.1 hf with hf | hf
    · exact List.mem_append_left _ (hr l' f hf)
    · cases r with
      | ok _ => simp at hf
      | error g =>
        obtain ⟨rfl, rfl⟩ : l' = l ∧ f = g := by simpa using hf
        simp [hc]
  | still => exact fun l f hf => List.mem_append_left _ (hr l f hf)
  | enqueue => exact fun l f hf => List.mem_append_left _ (hr l f hf)
  | refuse => exact fun l f hf => List.mem_append_left _ (hr l f (by simpa using hf))
  | replayEnd => exact fun l f hf => List.mem_append_left _ (hr l f (by simpa using hf))
  | putBack => exact fun l f hf => List.mem_append_left _ (hr l f (by simpa using hf))
  | _ => simpa using hr

theorem told_shift {t t' : Traffic ε} {m : Move ε} (hs : Shift t m t')
    (h : ∀ ls n, .closed ls n ∈ t.log → n = ls.length) :
    ∀ ls n, .closed ls n ∈ t'.log → n = ls.length := by
  cases hs with
  | settleDirect _ r => cases r <;> simpa using h
  | close =>
    intro ls n hmem
    rcases List.mem_append.1 hmem with hmem | hmem
    · exact h ls n hmem
    · obtain ⟨rfl, rfl⟩ : ls = t.outbox.queue ∧ n = t.outbox.queue.length := by simpa using hmem
      rfl
  | _ => simpa using h

theorem closed_shift {t t' : Traffic ε} {m : Move ε} (hs : Shift t m t')
    (h : t.outbox.closed = true ↔ ∃ ls n, .closed ls n ∈ t.log) :
    t'.outbox.closed = true ↔ ∃ ls n, .closed ls n ∈ t'.log := by
  cases hs with
  | settleDirect _ r => cases r <;> simpa using h
  | close => exact ⟨fun _ => ⟨t.outbox.queue, _, List.mem_append_right _ (List.mem_singleton_self _)⟩, fun _ => rfl⟩
  | _ => simpa using h

theorem accounted_shift {t t' : Traffic ε} {m : Move ε} (hs : Shift t m t') (h : t.Accounted) : t'.Accounted :=
  ⟨carried_shift hs h.carried, raised_shift hs h, told_shift hs h.told, closed_shift hs h.closed⟩

/-! ## Conservation -/

/-- The letters sent are told apart by their numbers. -/
theorem sent_nodup (visible : Bool) (moves : List (Move ε)) : ((start visible : Traffic ε).run moves).sent.Nodup := by
  have hn := numbered_run visible moves
  unfold Numbered at hn
  exact List.Nodup.of_map (·.number) (hn ▸ List.nodup_range)

/-- **Nothing is lost and nothing doubled.** After every schedule each letter sent is in exactly one place, and once: it
was delivered, is in flight, is in the queue, failed on the direct way with the very fault that its send ended with,
or was dropped, having come to the closed outbox or been in the queue when the outbox was closed; and a closing tells
exactly how many queued letters it has dropped. -/
theorem letters_conserved (visible : Bool) (moves : List (Move ε)) :
    let t := (start visible : Traffic ε).run moves
    t.sent.Nodup ∧
    (t.delivered ++ t.inFlight ++ t.outbox.queue ++ t.failed.map (·.1) ++ t.dropped).Perm t.sent ∧
    (∀ l f, .failed (.direct l) f ∈ t.log → (some l, .error f) ∈ t.ended) ∧
    (t.outbox.closed = true ↔ ∃ ls n, .closed ls n ∈ t.log) ∧
    ∀ ls n, .closed ls n ∈ t.log → n = ls.length := by
  intro t
  have hp := run_induction (P := fun t => t.places.Perm t.sent) places_shift (t := (start visible : Traffic ε))
    (List.Perm.refl _) moves
  have ha := run_induction (P := Accounted) accounted_shift (accounted_start visible) moves
  exact ⟨sent_nodup visible moves, hp, ha.raised, ha.closed, ha.told⟩

/-- The direct delivery of a letter fails; then the outbox is closed while another letter is queued. -/
def failureAndClosing : List (Move String) :=
  [.send 0 "a", .settle 0 (.error .fileSystem), .hold, .send 1 "b", .close, .send 2 "c"]

/-- One letter has failed, two are dropped, and the closing has told of one. -/
theorem failureAndClosing_conserved :
    let t := (start true).run failureAndClosing
    (t.failed.map (·.1) ++ t.dropped).Perm t.sent ∧ (some ⟨0, 0, "a"⟩, .error .fileSystem) ∈ t.ended ∧
      1 = [(⟨1, 1, "b"⟩ : Letter String)].length := by
  obtain ⟨-, hp, hf, -, hc⟩ := letters_conserved true failureAndClosing
  exact ⟨hp, hf _ _ (.tail _ (.head _)), hc _ _ (.tail _ (.tail _ (.head _)))⟩

end ChatRelay.Outbox.Traffic
