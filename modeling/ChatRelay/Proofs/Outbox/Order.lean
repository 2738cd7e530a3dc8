import ChatRelay.Proofs.Outbox.Traffic

/-!
# Letters leave in order

No letter overtakes an older one, and none leaves while the surface is hidden, whatever the schedule and whatever
fails.

- `Traffic.course`: the numbers of the deliveries begun so far, and behind them those of the letters in line. It never
  falls (`Traffic.InOrder`): a delivery that is begun takes the head of the line and leaves its number there, and only
  the newest letter joins at the end;
- `Traffic.begun_in_order_and_visible`: the deliveries are begun in the order of the sends, and each while the surface
  is visible.
-/

namespace ChatRelay.Outbox.Traffic

variable {ε : Type}

/-! ## Numbers that never fall -/

/-- The numbers never fall, and are below a bound. -/
def Rising (ns : List Nat) (bound : Nat) : Prop := ns.Pairwise (· ≤ ·) ∧ ∀ n ∈ ns, n < bound

theorem Rising.grow {ns : List Nat} {b : Nat} (h : Rising ns b) : Rising ns (b + 1) :=
  ⟨h.1, fun n hn => Nat.lt_succ_of_lt (h.2 n hn)⟩

theorem Rising.concat {ns : List Nat} {b : Nat} (h : Rising ns b) : Rising (ns ++ [b]) (b + 1) := by
  refine ⟨List.pairwise_append.2 ⟨h.1, List.pairwise_singleton _ _, fun m hm n hn => ?_⟩, fun n hn => ?_⟩
  · rw [List.mem_singleton.1 hn]
    exact Nat.le_of_lt (h.2 m hm)
  · rcases List.mem_append.1 hn with hn | hn
    · exact Nat.lt_succ_of_lt (h.2 n hn)
    · rw [List.mem_singleton.1 hn]
      exact Nat.lt_succ_self b

/-- A number may be repeated on the spot. -/
theorem Rising.twice {as ns : List Nat} {n b : Nat} (h : Rising (as ++ n :: ns) b) : Rising (as ++ n :: n :: ns) b := by
  obtain ⟨hp, hb⟩ := h
  obtain ⟨ha, hn, han⟩ := List.pairwise_append.1 hp
  refine ⟨List.pairwise_append.2 ⟨ha, List.pairwise_cons.2 ⟨fun m hm => ?_, hn⟩, fun m hm k hk => ?_⟩, fun m hm => ?_⟩
  · rcases List.mem_cons.1 hm with rfl | hm
    · exact Nat.le_refl _
    · exact (List.pairwise_cons.1 hn).1 m hm
  · exact han m hm k (by simpa using hk)
  · exact hb m (by simpa using hm)

theorem Rising.sublist {ns ms : List Nat} {b : Nat} (h : Rising ns b) (hs : ms.Sublist ns) : Rising ms b :=
  ⟨h.1.sublist hs, fun n hn => h.2 n (hs.subset hn)⟩

/-! ## The course of the letters -/

/-- The numbers of the deliveries begun so far, and behind them those of the letters in line. -/
def course (t : Traffic ε) : List Nat := t.begun.map (·.1.number) ++ t.line.map (·.number)

/-- No letter has overtaken an older one, and none was sent off while the surface was hidden. -/
structure InOrder (t : Traffic ε) : Prop where
  oneReplay : t.OneReplay
  rising : Rising t.course t.sent.length
  visible : ∀ l v, .begun l v ∈ t.log → v = true

theorem inOrder_start (visible : Bool) : (start visible : Traffic ε).InOrder :=
  ⟨oneReplay_start visible, ⟨.nil, by simp [course, begun, line, start, Outbox.new]⟩, by simp [start]⟩

theorem rising_shift {t t' : Traffic ε} {m : Move ε} (hs : Shift t m t') (h : t.InOrder) :
    Rising t'.course t'.sent.length := by
  have hr := h.rising
  have hone := h.oneReplay
  unfold course at hr ⊢
  cases hs with
  | idle => exact hr
  | hold => exact hr
  | still => exact hr
  | refuse => simpa [begun, line, List.filterMap_cons] using hr.grow
  | direct task e hv hq hd =>
    have hl : t.line = [] := by simp [line, hone.none hd, hq]
    rw [hl] at hr
    simpa [begun, line, List.filterMap_cons, nextLetter, hone.none hd, hq] using hr.concat
  | enqueue => simpa [begun, line, nextLetter] using hr.concat
  | enqueueReplay task e h' rest hv hd hq =>
    have hr' : Rising (t.begun.map (·.1.number) ++ h'.number :: rest.map (·.number)) (t.sent.length + 1) := by
      rw [← List.map_cons, ← hq]
      simpa [line, hone.none hd, nextLetter] using hr.concat
    simpa [begun, line, List.filterMap_cons, hone.none hd] using hr'.twice
  | replay _ task h' rest _ hd hq =>
    rw [line, hone.none hd, hq] at hr
    simpa [begun, line, List.filterMap_cons, hone.none hd] using hr.twice
  | close =>
    refine hr.sublist ?_
    simp [begun, line, List.filterMap_cons]
  | settleDirect task r c l l₁ l₂ hw =>
    rw [line, hw] at hr
    cases r <;> simpa [begun, line, List.filterMap_cons] using hr
  | replayNext task c l h' n rest l₁ l₂ hw hv hq =>
    obtain ⟨h₁, h₂, -⟩ := hone.alone hw
    rw [line, hw, hq] at hr
    have hr' : Rising (t.begun.map (·.1.number) ++ h'.number :: rest.map (·.number)) t.sent.length :=
      hr.sublist (by simp [h₁, h₂])
    simpa [begun, line, List.filterMap_cons, h₁, h₂] using hr'.twice
  | replayEnd task c l n l₁ l₂ _ hw =>
    obtain ⟨h₁, h₂, -⟩ := hone.alone hw
    rw [line, hw] at hr
    refine hr.sublist ?_
    simp [begun, line, List.filterMap_cons, h₁, h₂]
  | putBack task f c l n l₁ l₂ _ hw =>
    obtain ⟨h₁, h₂, -⟩ := hone.alone hw
    rw [line, hw] at hr
    simpa [begun, line, List.filterMap_cons, h₁, h₂] using hr

theorem visible_shift {t t' : Traffic ε} {m : Move ε} (hs : Shift t m t') (h : ∀ l v, .begun l v ∈ t.log → v = true) :
    ∀ l v, .begun l v ∈ t'.log → v = true := by
  cases hs with
  | direct _ _ hv => simpa [or_imp, forall_and, hv] using h
  | enqueueReplay _ _ _ _ hv => simpa [or_imp, forall_and, hv] using h
  | replay => simpa [or_imp, forall_and] using h
  | replayNext _ _ _ _ _ _ _ _ _ hv => simpa [or_imp, forall_and, hv] using h
  | settleDirect _ r => cases r <;> simpa using h
  | _ => simpa using h

theorem inOrder_shift {t t' : Traffic ε} {m : Move ε} (hs : Shift t m t') (h : t.InOrder) : t'.InOrder :=
  ⟨oneReplay_shift hs h.oneReplay, rising_shift hs h, visible_shift hs h.visible⟩

/-- Every schedule keeps the letters in order. -/
theorem inOrder_run (visible : Bool) (moves : List (Move ε)) : ((start visible : Traffic ε).run moves).InOrder :=
  run_induction (P := InOrder) inOrder_shift (inOrder_start visible) moves

/-! ## The order of the deliveries -/

theorem mem_begun {t : Traffic ε} {l : Letter ε} {v : Bool} : (l, v) ∈ t.begun ↔ .begun l v ∈ t.log := by
  simp only [begun, List.mem_filterMap]
  constructor
  · rintro ⟨e, he, h⟩
    cases e <;> simp_all [Entry.begun?]
  · exact fun h => ⟨_, h, rfl⟩

/-- **First in, first out, and only while the surface is visible.** Of two letters, no delivery of the one sent later is
begun before a delivery of the one sent earlier, also when a failed replay repeats deliveries; and every delivery is
begun while the surface is visible. -/
theorem begun_in_order_and_visible (visible : Bool) (moves : List (Move ε)) :
    let t := (start visible : Traffic ε).run moves
    (∀ (m n : Nat) (e f : Letter ε), m < n → t.sent[m]? = some e → t.sent[n]? = some f →
      ∀ (i j : Nat) (v w : Bool), t.begun[i]? = some (e, v) → t.begun[j]? = some (f, w) → i < j) ∧
    ∀ (i : Nat) (l : Letter ε) (v : Bool), t.begun[i]? = some (l, v) → v = true := by
  intro t
  have h := inOrder_run visible moves
  refine ⟨?_, fun i l v hi => h.visible l v (mem_begun.1 (List.mem_of_getElem? hi))⟩
  intro m n e f hmn he hf i j v w hi hj
  have hne : e.number < f.number := by
    rw [number_of_sent visible moves he, number_of_sent visible moves hf]
    exact hmn
  by_contra hji
  have hsorted : t.begun.Pairwise (fun a b => a.1.number ≤ b.1.number) :=
    List.pairwise_map.1 (List.pairwise_append.1 h.rising.1).1
  obtain ⟨hjl, hj⟩ := List.getElem?_eq_some_iff.1 hj
  obtain ⟨hil, hi⟩ := List.getElem?_eq_some_iff.1 hi
  -- a later start at an earlier place of the record
  have hle : f.number ≤ e.number := by
    rcases Nat.lt_or_eq_of_le (Nat.le_of_not_lt hji) with hlt | rfl
    · have := List.pairwise_iff_getElem.1 hsorted j i hjl hil hlt
      rwa [hi, hj] at this
    · rw [hi] at hj
      simp only [Prod.mk.injEq] at hj
      exact Nat.le_of_eq (congrArg _ hj.1.symm)
  omega

/-- Two letters wait for the surface, and the replay fails at the first of them and is repeated. -/
def repeatedReplay : List (Move String) :=
  [.send 0 "a", .send 1 "b", .release 2, .settle 2 (.error .fileSystem), .flush 3, .settle 3 (.ok ())]

/-- The first letter is sent off twice before the second. -/
theorem repeatedReplay_in_order :
    ((start false).run repeatedReplay).begun =
      [(⟨0, 0, "a"⟩, true), (⟨0, 0, "a"⟩, true), (⟨1, 1, "b"⟩, true)] ∧ 1 < 2 :=
  ⟨rfl, (begun_in_order_and_visible false repeatedReplay).1 0 1 _ _ (by decide) rfl rfl 1 2 _ _ rfl rfl⟩

end ChatRelay.Outbox.Traffic
