import ChatRelay.Proofs.Coordinator.Duty
import ChatRelay.Proofs.Outbox.Traffic

/-!
# What a hidden surface is told

Whether the surface of a coordinator counts as visible depends on the requests alone: a report that it is hidden or
shown decides at once, and a handler that goes on leaves it as it is, unless it is that of a shutdown. While the surface
is hidden, nothing is delivered to it but a restored state.

- `Turn.Shows`: a turn that leaves the surface visible or hidden, and what it has delivered to it;
- `shows_begin`, `shows_resume`: the turns of requests and of handlers that go on.
-/

namespace ChatRelay

namespace Outbox

variable {ε : Type}

/-- A step that leaves the outbox visible or hidden, and asks for a delivery only if it is visible. -/
structure Turn.Shows (v : Bool) (t : Turn ε) : Prop where
  sight : t.outbox.visible = v
  told : ∀ e pt, t.next = .waiting e pt → v = true

theorem shows_finish (b : Outbox ε) (reports : List (Report ε)) : (finish b reports).Shows b.visible :=
  ⟨rfl, by simp [finish]⟩

theorem shows_replay (b : Outbox ε) (n : Nat) : (b.replay n).Shows b.visible := by
  unfold replay
  split
  · split
    · next hv => exact ⟨rfl, fun _ _ _ => hv⟩
    · exact shows_finish { b with draining := false } _
  · exact shows_finish { b with draining := false } _

theorem shows_flush (b : Outbox ε) : b.flush.Shows b.visible := by
  unfold flush
  split
  · exact shows_finish b []
  · exact shows_replay { b with draining := true } 0

theorem shows_release (b : Outbox ε) : b.release.Shows true := shows_flush { b with visible := true }

theorem shows_send (b : Outbox ε) (e : ε) : (b.send e).Shows b.visible := by
  unfold send
  split
  · exact shows_finish b _
  · split
    · next h =>
      simp only [Bool.and_eq_true] at h
      exact ⟨rfl, fun _ _ _ => h.1.1⟩
    · dsimp only
      split
      · exact shows_finish { b with queue := b.queue ++ [e] } _
      · split
        · exact shows_finish { b with queue := b.queue ++ [e] } _
        · exact shows_flush { b with queue := b.queue ++ [e] }

theorem shows_resume (b : Outbox ε) (pt : Point ε) (r : Except Fault Unit) : (b.resume pt r).Shows b.visible := by
  cases pt with
  | direct e => exact ⟨rfl, by simp [resume]⟩
  | replaying e n =>
    cases r with
    | ok _ => exact shows_replay b (n + 1)
    | error f => exact ⟨rfl, by simp [resume]⟩

end Outbox

namespace Coordinator

/-- A turn that leaves the surface visible or hidden, and has nothing but a restored state delivered to a hidden one. -/
structure Turn.Shows (v : Bool) (t : Turn) : Prop where
  sight : t.coordinator.outbox.visible = v
  told : Calls (fun pt call => ∀ e, call = .deliver e → v = true ∨ ∃ restored, pt = .announcing restored) t.next

section

variable {v : Bool}

theorem Turn.Shows.report {t : Turn} (h : t.Shows v) (notices : List Notice) : (t.report notices).Shows v :=
  ⟨h.sight, h.told⟩

theorem shows_finish (c : Coordinator) (outcome : Outcome) : (finish c outcome).Shows c.outbox.visible :=
  ⟨rfl, calls_finished _⟩

theorem shows_fail (c : Coordinator) (f : Fault) : (fail c f).Shows c.outbox.visible := ⟨rfl, calls_finished _⟩

/-- A turn that waits for no delivery. -/
theorem shows_await (c : Coordinator) {call : Call} (h : ∀ e, call ≠ .deliver e) (pt : Point) :
    (await c call pt).Shows c.outbox.visible := ⟨rfl, calls_waiting fun e he => absurd he (h e)⟩

/-- A turn that waits for a delivery of the outbox. -/
theorem shows_deliver {c : Coordinator} (h : c.outbox.visible = true) (e : Outbound) (pt : Point) :
    (await c (.deliver e) pt).Shows c.outbox.visible := ⟨rfl, calls_waiting fun _ _ => .inl h⟩

theorem saveCall_ne_deliver (shelf : Shelf) (pt : Save.Point) (e : Outbound) : saveCall shelf pt ≠ .deliver e := by
  cases pt <;> simp [saveCall]

theorem relayCall_ne_deliver (p : Prompt) (pt : Relay.Point) (e : Outbound) : relayCall p pt ≠ .deliver e := by
  cases pt <;> simp [relayCall]

theorem shows_conclude (c : Coordinator) {purpose : Purpose} (hp : purpose ≠ .leaving) (saved : SaveResult) :
    (conclude c purpose saved).Shows c.outbox.visible := by
  cases purpose with
  | leaving => exact absurd rfl hp
  | _ => exact shows_finish _ _

theorem shows_afterSave (c : Coordinator) {purpose : Purpose} (hp : purpose ≠ .leaving) {t : Save.Turn}
    (h : Calls (fun pt call => call = saveCall c.shelf pt) t.next) :
    (afterSave c purpose t).Shows c.outbox.visible := by
  unfold afterSave
  rcases ht : t.next with (f | saved) | ⟨call, pt⟩
  · exact (shows_fail c f).report _
  · exact (shows_conclude c hp saved).report _
  · obtain rfl := h call pt ht
    exact (shows_await c (saveCall_ne_deliver c.shelf pt) _).report _

theorem shows_persist (c : Coordinator) {purpose : Purpose} (hp : purpose ≠ .leaving) (uiState : Option Json) :
    (persist c purpose uiState).Shows c.outbox.visible := by
  unfold persist
  split
  · exact shows_conclude c hp _
  · exact shows_afterSave c hp (calls_saveStart _ _ _)

theorem shows_afterReport (c : Coordinator) (p : Prompt) (cause : Fault) (n : Nat) {t : Outbox.Turn Outbound}
    (h : t.Shows v) : (afterReport c p cause n t).Shows v := by
  obtain ⟨rfl, htold⟩ := h
  unfold afterReport
  refine Turn.Shows.report ?_ _
  rcases ht : t.next with (f | _) | ⟨e, pt⟩
  · exact shows_fail { c with outbox := t.outbox } f
  · exact shows_persist { c with outbox := t.outbox } (by simp) _
  · exact shows_deliver (c := { c with outbox := t.outbox }) (htold e pt ht) e _

theorem shows_afterRelay (c : Coordinator) (p : Prompt) {next : Next Call Relay.Point Nat}
    (h : Calls (fun pt call => call = relayCall p pt) next) : (afterRelay c p next).Shows c.outbox.visible := by
  unfold afterRelay
  split
  · exact (shows_persist c (by simp) _).report _
  · exact (shows_afterReport c p _ _ (Outbox.shows_send _ _)).report _
  · exact shows_fail c _
  · next call pt =>
    obtain rfl := h call pt rfl
    exact shows_await c (relayCall_ne_deliver p pt) _

theorem shows_afterPass (c : Coordinator) (p : Prompt) (handover : Relay.Handover) {t : Outbox.Turn Outbound}
    (h : t.Shows v) : (afterPass c p handover t).Shows v := by
  obtain ⟨rfl, htold⟩ := h
  unfold afterPass
  refine Turn.Shows.report ?_ _
  rcases ht : t.next with r | ⟨e, pt⟩
  · exact shows_afterRelay { c with outbox := t.outbox } p (calls_passed p handover r)
  · exact shows_deliver (c := { c with outbox := t.outbox }) (htold e pt ht) e _

theorem shows_afterStep (c : Coordinator) (p : Prompt) (pt : Relay.Point) (a : Except Fault Answer) :
    (afterStep c p (Relay.resume p pt a)).Shows c.outbox.visible := by
  cases h : Relay.resume p pt a with
  | pass event handover => exact shows_afterPass c p handover (Outbox.shows_send _ _)
  | next next => exact shows_afterRelay c p (calls_relayResume h)

theorem shows_afterRestore (c : Coordinator) {t : Restore.Turn} (h : Calls (RestoreCall c.shelf) t.next) :
    (afterRestore c t).Shows c.outbox.visible := by
  unfold afterRestore
  refine Turn.Shows.report ?_ _
  rcases ht : t.next with (f | restored) | ⟨call, pt⟩
  · exact shows_fail { c with tabs := t.tabs } f
  · exact ⟨rfl, calls_waiting fun _ _ => .inr ⟨restored, rfl⟩⟩
  · refine shows_await { c with tabs := t.tabs } (fun e he => ?_) _
    have hcall := h call pt ht
    subst he
    cases pt <;> simp [RestoreCall] at hcall

theorem shows_afterReplay (c : Coordinator) {t : Outbox.Turn Outbound} (h : t.Shows v) : (afterReplay c t).Shows v := by
  obtain ⟨rfl, htold⟩ := h
  unfold afterReplay
  refine Turn.Shows.report ?_ _
  rcases ht : t.next with (f | _) | ⟨e, pt⟩
  · exact shows_fail { c with outbox := t.outbox } f
  · exact shows_finish { c with outbox := t.outbox } _
  · exact shows_deliver (c := { c with outbox := t.outbox }) (htold e pt ht) e _

theorem shows_beginInbound [Host] (c : Coordinator) (m : Json) : (beginInbound c m).Shows c.outbox.visible := by
  unfold beginInbound
  split
  · exact (shows_finish c _).report _
  · split
    · unfold beginEvent
      split
      · exact shows_await c (by simp) _
      · split
        · exact shows_afterRelay c _ (calls_waiting rfl)
        · exact (shows_finish c _).report _
      · exact shows_persist c (by simp) _
      · exact shows_afterRestore c (calls_waiting rfl)
    · exact ⟨by rw [drop_coordinator], calls_drop c _⟩

end

/-- What a request makes of the sight of the surface. -/
def Request.sight (visible : Bool) : Request → Bool
  | .hidden => false
  | .visible => true
  | _ => visible

/-- Whether the surface counts as visible when a request has begun. -/
theorem shows_begin [Host] (c : Coordinator) {r : Request} (hr : r ≠ .shutdown) :
    (c.begin r).Shows (r.sight c.outbox.visible) := by
  cases r with
  | inbound m => exact shows_beginInbound c m
  | hidden => exact (shows_persist { c with outbox := c.outbox.hold } (by simp) none).report _
  | visible => exact (shows_afterReplay c (Outbox.shows_release c.outbox)).report _
  | shutdown => exact absurd rfl hr

/-- A handler that goes on leaves the surface as visible as it was. -/
theorem shows_resume (c : Coordinator) (a : Except Fault Answer) {pt : Point} {r : Request} (hpt : pt.Serves r)
    (hr : r ≠ .shutdown) : (c.resume a pt).Shows c.outbox.visible := by
  cases pt with
  | creating tab =>
    cases a with
    | ok a => exact (shows_persist { c with tabs := c.tabs.bind tab a.toSession } (by simp) none).report _
    | error f => exact shows_fail c f
  | relaying p pt => exact shows_afterStep c p pt a
  | passing p handover pt => exact shows_afterPass c p handover (Outbox.shows_resume _ _ _)
  | reporting p cause n pt => exact shows_afterReport c p cause n (Outbox.shows_resume _ _ _)
  | saving purpose pt =>
    refine shows_afterSave c (fun hp => ?_) (calls_saveResume _ _ _ _)
    subst hp
    exact hr hpt
  | restoring pt => exact shows_afterRestore c (calls_restoreResume _ _ _ _)
  | announcing restored =>
    cases a with
    | ok _ => exact shows_finish c _
    | error f => exact shows_fail c f
  | replaying pt => exact shows_afterReplay c (Outbox.shows_resume _ _ _)

end Coordinator

end ChatRelay
