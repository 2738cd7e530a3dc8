import ChatRelay.Proofs.Coordinator.Growth
import ChatRelay.Proofs.Coordinator.Mail

/-!
# The end of a shutdown

A shutdown closes the coordinator at once, and only when its save has come to its end are the outbox closed and the tabs
forgotten. When the store fails the save, the coordinator stays closed with its tabs and with an outbox that takes
letters, and nobody comes back to it: a further shutdown finds the coordinator closed and does nothing.

- `TornDown`: a coordinator with which nothing is left to do;
- `Scene.OneLeaves`: only the handler of one shutdown can close the outbox, and until it has done so the outbox is open
  (`Scene.oneLeaves_shift`);
- `Scene.Stranded`: the coordinator is closed, its outbox is open, and nobody is left to close it
  (`Scene.stranded_run`);
- `Scene.torn_down_iff`: the handler of a shutdown leaves all or nothing behind exactly when it does not fail;
- `Scene.failedSave_strands`: the store refuses the last snapshot.
-/

namespace ChatRelay

namespace Outbox

variable {ε : Type}

theorem closed_replay (b : Outbox ε) (n : Nat) : (b.replay n).outbox.closed = b.closed := by
  unfold replay
  split
  · split <;> rfl
  · rfl

theorem closed_flush (b : Outbox ε) : b.flush.outbox.closed = b.closed := by
  unfold flush
  split
  · rfl
  · exact closed_replay { b with draining := true } 0

theorem closed_release (b : Outbox ε) : b.release.outbox.closed = b.closed := closed_flush { b with visible := true }

theorem closed_send (b : Outbox ε) (e : ε) : (b.send e).outbox.closed = b.closed := by
  unfold send
  split
  · rfl
  · split
    · rfl
    · dsimp only
      split
      · rfl
      · split
        · rfl
        · exact closed_flush { b with queue := b.queue ++ [e] }

theorem closed_resume (b : Outbox ε) (pt : Point ε) (r : Except Fault Unit) :
    (b.resume pt r).outbox.closed = b.closed := by
  cases pt with
  | direct e => rfl
  | replaying e n =>
    cases r with
    | ok _ => exact closed_replay b (n + 1)
    | error f => rfl

end Outbox

namespace Coordinator

/-- Nothing is left: the coordinator and its outbox are closed, the queue is empty, and no tab is bound. -/
structure TornDown (c : Coordinator) : Prop where
  closed : c.closed = true
  shut : c.outbox.closed = true
  queue : c.outbox.queue = []
  tabs : c.tabs = []

/-! ## Who closes the outbox -/

section

variable {c : Coordinator}

theorem lid_persist {purpose : Purpose} (hp : purpose ≠ .leaving) (uiState : Option Json) :
    (persist c purpose uiState).coordinator.outbox.closed = c.outbox.closed := by
  rw [(leaves_persist c purpose hp uiState).outbox]

theorem lid_afterRelay (p : Prompt) (next : Next Call Relay.Point Nat) :
    (afterRelay c p next).coordinator.outbox.closed = c.outbox.closed := by
  unfold afterRelay
  split
  · exact lid_persist (by simp) none
  · exact (congrArg Outbox.closed (leaves_afterReport c p _ _ _).outbox).trans (Outbox.closed_send _ _)
  · rfl
  · rfl

theorem lid_afterPass (p : Prompt) (handover : Relay.Handover) (t : Outbox.Turn Outbound) :
    (afterPass c p handover t).coordinator.outbox.closed = t.outbox.closed := by
  unfold afterPass
  rcases t.next with r | ⟨e, pt⟩
  · exact lid_afterRelay (c := { c with outbox := t.outbox }) p _
  · rfl

theorem lid_afterStep (p : Prompt) (step : Relay.Step) :
    (afterStep c p step).coordinator.outbox.closed = c.outbox.closed := by
  cases step with
  | pass e handover => exact (lid_afterPass p handover _).trans (Outbox.closed_send _ _)
  | next next => exact lid_afterRelay p next

/-- No request closes the outbox when it begins. -/
theorem lid_begin [Host] (c : Coordinator) (r : Request) : (c.begin r).coordinator.outbox.closed = c.outbox.closed := by
  cases r with
  | inbound m => rw [show (c.begin (.inbound m)).coordinator.outbox = _ from (leaves_beginInbound c m).outbox]
  | hidden => exact lid_persist (c := { c with outbox := c.outbox.hold }) (by simp) none
  | visible => exact (congrArg Outbox.closed (leaves_afterReplay c _).outbox).trans (Outbox.closed_release _)
  | shutdown =>
    simp only [begin]
    split
    · rfl
    · exact congrArg Outbox.closed (leaves_save { c with closed := true } .leaving none).outbox

/-- A handler that is not in a last save leaves the outbox as open or as closed as it was. -/
theorem lid_resume (c : Coordinator) (a : Except Fault Answer) {pt : Point} (hpt : ∀ sp, pt ≠ .saving .leaving sp) :
    (c.resume a pt).coordinator.outbox.closed = c.outbox.closed := by
  cases pt with
  | creating tab =>
    cases a with
    | ok a => exact lid_persist (c := { c with tabs := c.tabs.bind tab a.toSession }) (by simp) none
    | error f => rfl
  | relaying p pt => exact lid_afterStep p _
  | passing p handover pt => exact (lid_afterPass p handover _).trans (Outbox.closed_resume _ _ _)
  | reporting p cause n pt =>
    exact (congrArg Outbox.closed (leaves_afterReport c p cause n _).outbox).trans (Outbox.closed_resume _ _ _)
  | saving purpose sp =>
    have hp : purpose ≠ .leaving := by
      rintro rfl
      exact hpt sp rfl
    have hconclude : purpose.conclude c.outbox = c.outbox := by
      cases purpose with
      | leaving => exact absurd rfl hp
      | _ => rfl
    rcases leaves_afterSave c purpose (Save.resume c.shelf c.tabs sp a) with ⟨saved, -, h⟩ | ⟨-, h⟩
    · exact congrArg Outbox.closed (h.outbox.trans hconclude)
    · exact congrArg Outbox.closed h.outbox
  | restoring pt => exact congrArg Outbox.closed (leaves_afterRestore c _).outbox
  | announcing restored => cases a <;> rfl
  | replaying pt => exact (congrArg Outbox.closed (leaves_afterReplay c _).outbox).trans (Outbox.closed_resume _ _ _)

end

/-! ## The last save -/

/-- All that the turn of a handler can be that is in a last save: the save goes on, the store has failed it, or it has
come to its end and the surface is left. -/
inductive LastTurn (c : Coordinator) (pt : Save.Point) : Except Fault Answer → Turn → Prop
  | saving (a : Except Fault Answer) (notices : List Notice) (call : Call) (pt' : Save.Point) :
      LastTurn c pt a ⟨c, notices, .waiting call (.saving .leaving pt')⟩
  | failed (f : Fault) : onStore (saveCall c.shelf pt) = true → LastTurn c pt (.error f) ⟨c, [], .finished (.error f)⟩
  | left (a : Answer) (notices : List Notice) (saved : SaveResult) : LastTurn c pt (.ok a)
      ⟨{ c with outbox := c.outbox.close.1, tabs := [] }, notices, .finished (.ok (.saved saved))⟩

/-- A last save that has more to read or is about to write. -/
theorem lastTurn_advance (c : Coordinator) (pt : Save.Point) (a : Except Fault Answer) (notices : List Notice)
    (p : Save.Progress) (rest : TabMap) :
    LastTurn c pt a (afterSave c .leaving ⟨notices, Save.advance c.shelf p rest⟩) := by
  cases rest with
  | nil => exact .saving a _ _ _
  | cons b rest => exact .saving a _ _ _

theorem resume_leaving (c : Coordinator) (pt : Save.Point) (a : Except Fault Answer) :
    LastTurn c pt a (c.resume a (.saving .leaving pt)) := by
  cases pt with
  | recalling =>
    cases a with
    | ok a => exact lastTurn_advance c _ _ _ _ _
    | error f => exact .failed f rfl
  | reading p tab session rest => cases a <;> exact lastTurn_advance c _ _ _ _ _
  | writing p =>
    cases a with
    | ok a => exact .left a _ p.result
    | error f => exact .failed f rfl

/-! ## Schedules -/

namespace Scene

/-- A handler is in a last save. -/
def LeavesBy (s : Scene) (i : Nat) : Prop :=
  ∃ r d call pt, s.handlers[i]? = some ⟨r, d, .waiting call (.saving .leaving pt)⟩

section

variable [Host]

section

variable {shelf : Shelf} {s s' : Scene} {m : Move}

/-- Who is in a last save was in it before, or has just begun the shutdown of an open coordinator. -/
theorem leavesBy_shift (hs : Shift s m s') (hserve : s.Serving) {i : Nat} (h : s'.LeavesBy i) :
    s.LeavesBy i ∨ m = .begin .shutdown ∧ s.coordinator.closed = false ∧ i = s.handlers.length := by
  obtain ⟨r', d', call', pt', hi⟩ := h
  cases hs with
  | idle => exact .inl ⟨r', d', call', pt', hi⟩
  | begin r =>
    rcases Schedule.handler_begin hi with hi' | ⟨hge, he⟩
    · exact .inl ⟨r', d', call', pt', hi'⟩
    · have hw : (s.coordinator.begin r).next = _ := congrArg Schedule.Handler.status he
      have hr : r = .shutdown := serves_begin s.coordinator r call' _ hw
      subst hr
      have hlt := (List.getElem?_eq_some_iff.1 hi).1
      rw [List.length_append, List.length_singleton] at hlt
      refine .inr ⟨rfl, ?_, by omega⟩
      by_contra hc
      rw [Bool.not_eq_false] at hc
      simp only [begin, hc, if_true] at hw
      cases hw
  | answer j a r d call pt hj =>
    rcases Schedule.handler_answer hi with ⟨-, hi'⟩ | ⟨rfl, he⟩
    · exact .inl ⟨r', d', call', pt', hi'⟩
    · have hw : (s.coordinator.resume a pt).next = _ := congrArg Schedule.Handler.status he
      have hserves := hserve _ (List.mem_of_getElem? hj) call pt rfl
      have hr : r = .shutdown := serves_resume s.coordinator a hserves call' _ hw
      subst hr
      obtain ⟨sp, rfl⟩ := serves_shutdown hserves
      exact .inl ⟨_, d, call, sp, hj⟩

/-- The outbox is closed or opened by nobody but a handler that ends its last save. -/
theorem lid_shift (hs : Shift s m s') : s'.coordinator.outbox.closed = s.coordinator.outbox.closed ∨
    ∃ i, s.LeavesBy i ∧ ¬s'.LeavesBy i := by
  cases hs with
  | idle => exact .inl rfl
  | begin r => exact .inl (lid_begin s.coordinator r)
  | answer i a r d call pt hi =>
    by_cases hpt : ∃ sp, pt = .saving .leaving sp
    · obtain ⟨sp, rfl⟩ := hpt
      have hlt := (List.getElem?_eq_some_iff.1 hi).1
      have ht := resume_leaving s.coordinator sp a
      generalize s.coordinator.resume a (.saving .leaving sp) = t at ht ⊢
      cases ht with
      | saving => exact .inl rfl
      | failed => exact .inl rfl
      | left => exact .inr ⟨i, ⟨r, d, call, sp, hi⟩, by simp [LeavesBy, hlt]⟩
    · exact .inl (lid_resume s.coordinator a fun sp he => hpt ⟨sp, he⟩)

/-- The outbox stays as it is while nobody is in a last save. -/
theorem lid_kept (hs : Shift s m s') (hnobody : ∀ i, ¬s.LeavesBy i) :
    s'.coordinator.outbox.closed = s.coordinator.outbox.closed :=
  (lid_shift hs).resolve_right fun ⟨i, hi, _⟩ => hnobody i hi

/-- A coordinator that is closed stays closed, and a shutdown closes it. -/
theorem closed_shift (hs : Shift s m s') (hask : s.Asking shelf)
    (h : s.coordinator.closed = true ∨ m = .begin .shutdown) : s'.coordinator.closed = true := by
  cases hs with
  | idle => exact h.resolve_right (by simp)
  | begin r =>
    refine (proper_begin s.coordinator r).closed.trans ?_
    rcases h with h | h
    · rw [h, Bool.true_or]
    · cases h
      rw [Request.closes, Bool.or_true]
  | answer i a r d call pt hi =>
    have hasks := hask.asks _ (List.mem_of_getElem? hi) call pt rfl
    exact (proper_resume s.coordinator a (hask.kept ▸ hasks)).closed.trans (h.resolve_right (by simp))

end

/-- Until the coordinator is closed nobody is in a last save, and then one handler at most; and as long as the handler
has not come to its end, the outbox is open. -/
structure OneLeaves (s : Scene) : Prop where
  opened : s.coordinator.closed = false → s.coordinator.outbox.closed = false ∧ ∀ i, ¬s.LeavesBy i
  leaving : ∀ i, s.LeavesBy i → s.coordinator.outbox.closed = false ∧ ∀ j, s.LeavesBy j → j = i

/-- The coordinator is closed, its outbox is open, and no handler is left that would close it. -/
structure Stranded (s : Scene) : Prop where
  closed : s.coordinator.closed = true
  unshut : s.coordinator.outbox.closed = false
  nobody : ∀ i, ¬s.LeavesBy i

section

variable {shelf : Shelf} {s s' : Scene} {m : Move}

theorem oneLeaves_shift (hs : Shift s m s') (hask : s.Asking shelf) (hserve : s.Serving) (h : s.OneLeaves) :
    s'.OneLeaves := by
  refine ⟨fun hopen => ?_, fun i hi => ?_⟩
  · have hm : ¬(s.coordinator.closed = true ∨ m = .begin .shutdown) := fun hc => by
      cases hopen.symm.trans (closed_shift hs hask hc)
    rw [not_or, Bool.not_eq_true] at hm
    obtain ⟨hout, hnobody⟩ := h.opened hm.1
    refine ⟨(lid_kept hs hnobody).trans hout, fun i hi => ?_⟩
    rcases leavesBy_shift hs hserve hi with hi | ⟨hbegin, -⟩
    · exact hnobody i hi
    · exact hm.2 hbegin
  · rcases leavesBy_shift hs hserve hi with hi' | ⟨hbegin, hopen, rfl⟩
    · obtain ⟨hout, hone⟩ := h.leaving i hi'
      refine ⟨?_, fun j hj => ?_⟩
      · -- the handler that is still in its last save is the only one that could have closed the outbox
        rcases lid_shift hs with hkept | ⟨k, hk, hk'⟩
        · exact hkept.trans hout
        · obtain rfl := hone k hk
          exact absurd hi hk'
      · rcases leavesBy_shift hs hserve hj with hj | ⟨-, hopen, -⟩
        · exact hone j hj
        · exact absurd hi' ((h.opened hopen).2 i)
    · obtain ⟨hout, hnobody⟩ := h.opened hopen
      refine ⟨(lid_kept hs hnobody).trans hout, fun j hj => ?_⟩
      rcases leavesBy_shift hs hserve hj with hj | ⟨-, -, rfl⟩
      · exact absurd hj (hnobody j)
      · rfl

theorem stranded_shift (hs : Shift s m s') (hask : s.Asking shelf) (hserve : s.Serving) (h : s.Stranded) :
    s'.Stranded := by
  refine ⟨closed_shift hs hask (.inl h.closed), (lid_kept hs h.nobody).trans h.unshut, fun i hi => ?_⟩
  rcases leavesBy_shift hs hserve hi with hi | ⟨-, hopen, -⟩
  · exact h.nobody i hi
  · cases hopen.symm.trans h.closed

/-- Nothing was asked of a coordinator yet, in whatever state it is. -/
theorem oneLeaves_run {c : Coordinator} (hout : c.outbox.closed = false) (moves : List Move) :
    (Scene.run ⟨c, []⟩ moves).Asking c.shelf ∧ (Scene.run ⟨c, []⟩ moves).Serving ∧
      (Scene.run ⟨c, []⟩ moves).OneLeaves := by
  refine Schedule.run_induction (P := fun s : Scene => s.Asking c.shelf ∧ s.Serving ∧ s.OneLeaves) ?_ ⟨?_, ?_, ?_⟩ moves
  · rintro s m s' hs ⟨hask, hserve, h⟩
    exact ⟨asking_shift hs hask, serving_shift hs hserve, oneLeaves_shift hs hask hserve h⟩
  · exact ⟨rfl, by simp, by simp⟩
  · simp [Serving]
  · exact ⟨fun _ => ⟨hout, by simp [LeavesBy]⟩, by simp [LeavesBy]⟩

theorem stranded_run (hask : s.Asking shelf) (hserve : s.Serving) (h : s.Stranded) (moves : List Move) :
    (s.run moves).Stranded := by
  have hall : (s.run moves).Asking shelf ∧ (s.run moves).Serving ∧ (s.run moves).Stranded := by
    refine Schedule.run_induction (P := fun s : Scene => s.Asking shelf ∧ s.Serving ∧ s.Stranded) ?_
      ⟨hask, hserve, h⟩ moves
    rintro s m s' hs ⟨hask, hserve, h⟩
    exact ⟨asking_shift hs hask, serving_shift hs hserve, stranded_shift hs hask hserve h⟩
  exact hall.2.2

end

/-! ## All or nothing -/

section

variable {shelf : Shelf} {s : Scene} {i : Nat} {d : List (Call × Except Fault Answer)} {call : Call} {pt : Point}
  {a : Except Fault Answer} {result : Except Fault Outcome}

/-- The handler of a shutdown ends when the store fails it, and then leaves everything as it is, or when its save has
come to its end, and then leaves nothing. -/
theorem last_end (hask : s.Asking shelf) (hserve : s.Serving)
    (hi : s.handlers[i]? = some ⟨.shutdown, d, .waiting call pt⟩)
    (hend : (s.step (.answer i a)).handlers[i]? = some ⟨.shutdown, d ++ [(call, a)], .finished result⟩) :
    (∃ f, a = .error f ∧ onStore call = true ∧ result = .error f ∧ (s.step (.answer i a)).coordinator = s.coordinator) ∨
    ∃ b saved, a = .ok b ∧ result = .ok (.saved saved) ∧ TornDown (s.step (.answer i a)).coordinator := by
  have hmem := List.mem_of_getElem? hi
  obtain ⟨sp, rfl⟩ := serves_shutdown (hserve _ hmem call pt rfl)
  have hcall := hask.asks _ hmem call _ rfl
  rw [← hask.kept] at hcall
  obtain ⟨rfl, hclosed⟩ := hcall
  rw [step_answer hi] at hend ⊢
  have hfinal : (s.coordinator.resume a (.saving .leaving sp)).next = .finished result := by
    rcases Schedule.handler_answer hend with ⟨hne, -⟩ | ⟨-, he⟩
    · exact absurd rfl hne
    · exact congrArg Schedule.Handler.status he
  have ht := resume_leaving s.coordinator sp a
  generalize s.coordinator.resume a (.saving .leaving sp) = t at hfinal ht
  cases ht with
  | saving => cases hfinal
  | failed f hstore =>
    cases hfinal
    exact .inl ⟨f, rfl, hstore, rfl, rfl⟩
  | left b notices saved =>
    cases hfinal
    exact .inr ⟨b, saved, rfl, rfl, hclosed rfl, rfl, rfl, rfl⟩

/-- Nobody is left when the handler of a shutdown has ended and the outbox is still open. -/
theorem stranded_of_end (hask : s.Asking shelf) (hserve : s.Serving) (hone : s.OneLeaves)
    (hi : s.handlers[i]? = some ⟨.shutdown, d, .waiting call pt⟩)
    (hend : (s.step (.answer i a)).handlers[i]? = some ⟨.shutdown, d ++ [(call, a)], .finished result⟩)
    (hsame : (s.step (.answer i a)).coordinator = s.coordinator) : (s.step (.answer i a)).Stranded := by
  have hmem := List.mem_of_getElem? hi
  obtain ⟨sp, rfl⟩ := serves_shutdown (hserve _ hmem call pt rfl)
  obtain ⟨hunshut, halone⟩ := hone.leaving i ⟨_, d, call, sp, hi⟩
  refine ⟨?_, ?_, fun j hj => ?_⟩
  · rw [hsame]
    exact hask.shut _ hmem rfl
  · rw [hsame]
    exact hunshut
  · rcases leavesBy_shift (step_shift s (.answer i a)) hserve hj with hj' | ⟨hm, -⟩
    · obtain rfl := halone j hj'
      obtain ⟨r, d', call', sp', hj⟩ := hj
      cases hend.symm.trans hj
    · cases hm

end

/-- **A shutdown is all or nothing exactly when it does not fail.** Nothing was asked of a coordinator yet, in whatever
state it is, and its outbox is open; then requests are handled on it in any schedule. When the handler of a shutdown
ends, the coordinator is open or torn down exactly when the shutdown has ended well, and it has failed exactly when the
store has failed a call of it. Then the coordinator is as it was while the handler was waiting, with its tabs; it is
closed ever after, its outbox is open ever after, and no further shutdown tries again. -/
theorem torn_down_iff (c : Coordinator) (hout : c.outbox.closed = false) (moves : List Move) {i : Nat}
    {d : List (Call × Except Fault Answer)} {call : Call} {pt : Point}
    (hi : (Scene.run ⟨c, []⟩ moves).handlers[i]? = some ⟨.shutdown, d, .waiting call pt⟩)
    (a : Except Fault Answer) {result : Except Fault Outcome} :
    let s := Scene.run ⟨c, []⟩ moves
    let s' := s.step (.answer i a)
    s'.handlers[i]? = some ⟨.shutdown, d ++ [(call, a)], .finished result⟩ →
      ((s'.coordinator.closed = false ∨ TornDown s'.coordinator) ↔ ∃ saved, result = .ok (.saved saved)) ∧
      ∀ f, (result = .error f ↔ onStore call = true ∧ a = .error f) ∧
        (result = .error f → s'.coordinator = s.coordinator ∧ ∀ more,
          let later := (s'.run more).coordinator
          later.closed = true ∧ later.outbox.closed = false ∧
            later.begin .shutdown = finish later (.saved .nothing)) := by
  intro s s' hend
  obtain ⟨hask, hserve, hone⟩ := oneLeaves_run hout moves
  rcases last_end hask hserve hi hend with ⟨f, rfl, hstore, rfl, hsame⟩ | ⟨b, saved, rfl, rfl, htorn⟩
  · have hstranded : s'.Stranded := stranded_of_end hask hserve hone hi hend hsame
    have hshift := step_shift s (.answer i (.error f))
    refine ⟨⟨?_, ?_⟩, fun f' => ⟨by simp [hstore], fun _ => ⟨hsame, fun more => ?_⟩⟩⟩
    · rintro (hopen | htorn)
      · cases hopen.symm.trans hstranded.closed
      · cases htorn.shut.symm.trans hstranded.unshut
    · rintro ⟨saved, hsaved⟩
      cases hsaved
    · have hlater := stranded_run (asking_shift hshift hask) (serving_shift hshift hserve) hstranded more
      exact ⟨hlater.closed, hlater.unshut, if_pos hlater.closed⟩
  · exact ⟨⟨fun _ => ⟨saved, rfl⟩, fun _ => .inr htorn⟩, fun f => ⟨by simp, fun hf => nomatch hf⟩⟩

end

section

attribute [local instance] Host.sample

/-- A tab is open, and the shutdown of the coordinator is about to write the last snapshot. -/
def lastSnapshot : List Move :=
  [.begin (.inbound (newTabMessage "t")), .answer 0 (.ok (.session "s")), .answer 0 (.ok (.value .null)),
    .answer 0 (.ok (.value (.int 0))), .answer 0 (.ok .done), .begin .shutdown, .answer 1 (.ok (.value .null)),
    .answer 1 (.ok (.value (.int 0)))]

/-- The store takes the last snapshot, and everything is torn down. -/
theorem lastSnapshot_tears_down :
    let s := (start ⟨"k", 1⟩ true).run lastSnapshot
    s.coordinator.tabs = [("t", "s")] ∧ s.coordinator.outbox.closed = false ∧
      TornDown (s.step (.answer 1 (.ok .done))).coordinator := by
  have hend := torn_down_iff (new ⟨"k", 1⟩ true) rfl lastSnapshot (i := 1) rfl (.ok .done) rfl
  refine ⟨rfl, rfl, (hend.1.2 ⟨_, rfl⟩).resolve_left fun hopen => ?_⟩
  cases hopen

/-- The store refuses the last snapshot: the coordinator is closed, but neither its outbox nor the tab is gone, and a
further shutdown ends at once and asks the store for nothing. -/
theorem failedSave_strands :
    let f : Fault := .backend .runtime (some "disk full")
    let s := (start ⟨"k", 1⟩ true).run (lastSnapshot ++ [.answer 1 (.error f)])
    (∃ d, s.handlers[1]? = some ⟨.shutdown, d, .finished (.error f)⟩) ∧ s.coordinator.closed = true ∧
      s.coordinator.outbox.closed = false ∧ s.coordinator.tabs = [("t", "s")] ∧ ¬TornDown s.coordinator ∧
      (s.step (.begin .shutdown)).handlers[2]? = some ⟨.shutdown, [], .finished (.ok (.saved .nothing))⟩ := by
  refine ⟨⟨_, rfl⟩, rfl, rfl, rfl, fun h => ?_, rfl⟩
  cases h.shut

end

end Scene

end Coordinator

end ChatRelay
