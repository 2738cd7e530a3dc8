import ChatRelay.Proofs.Coordinator.Duty
import ChatRelay.Proofs.Restart.Saving

/-!
# Handling the requests of a chat

Every request but a shutdown is handled to its end, and comes to what `Chat.step` says.

- `Ends`: a handler that comes to its end with an effect;
- `ends_persist`, `ends_pass`, `ends_report`: saving and sending;
- `ends_complete`, `ends_breakOff`: the response to a prompt, whole or broken off;
- `ends_restore`, `ends_revive`: the restored state for a coordinator that has the tabs, and for one without tabs;
- `ends_step`: all requests.
-/

namespace ChatRelay

namespace Chat

/-- An effect with more messages in front. -/
def Effect.after (e : Effect) (events : List Outbound) : Effect := { e with delivered := events ++ e.delivered }

theorem after_after (e : Effect) (first second : List Outbound) :
    (e.after second).after first = e.after (first ++ second) := by
  simp [Effect.after]

theorem shown_append (s : Chat) (first second : List Outbound) :
    s.shown first ++ s.shown second = s.shown (first ++ second) := by
  unfold shown
  split <;> rfl

theorem post_post (s : Chat) (first second : List Outbound) :
    (s.post first).post second = s.post (first ++ second) := by
  unfold post
  dsimp only
  split <;> simp

theorem post_calm (s : Chat) (events : List Outbound) (h : s.visible = true → s.queue = []) :
    (s.post events).visible = true → (s.post events).queue = [] := by
  intro hv
  simp [post, show s.visible = true from hv, h hv]

/-! ## Changes of a chat -/

section

variable [Host] {shelf : Shelf} {takes : Json → Prop} {s : Chat} {w : Coordinator.Surroundings}

/-- The surface is shown or hidden, and messages are held back or delivered. -/
theorem Carried.seen (h : s.Carried shelf takes w) {visible : Bool} {queue : List Outbound}
    (hcalm : visible = true → queue = []) (stream : Echo.Stream) :
    ({ s with visible := visible, queue := queue }).Carried shelf takes { w with stream := stream } where
  sound := ⟨h.sound.distinct, h.sound.legible, hcalm, h.sound.unsaved⟩
  delay := h.delay
  turns := h.turns
  issued := h.issued
  taken := h.taken
  version := h.version
  uiState := h.uiState
  holds := h.holds

/-- A session gets other turns. -/
theorem Carried.setTurns (h : s.Carried shelf takes w) {session : String} {turns : List Json} {echo : Echo}
    (hturns : ∀ turn ∈ turns, turn.LegibleAt 6) (hdelay : echo.delay = w.echo.delay)
    (hhistory : ∀ session', echo.history session' =
      if session = session' then .ok turns else w.echo.history session') :
    (s.setTurns session turns).Carried shelf takes { w with echo := echo } where
  sound := by
    refine ⟨h.sound.distinct, fun session' => ?_, h.sound.calm, h.sound.unsaved⟩
    by_cases heq : session' = session
    · subst heq
      simpa [Chat.setTurns] using hturns
    · simpa [Chat.setTurns, heq] using h.sound.legible session'
  delay := hdelay.trans h.delay
  turns := fun b hb => by
    rw [hhistory]
    by_cases heq : session = b.2
    · simp [Chat.setTurns, heq]
    · simpa [Chat.setTurns, heq, Ne.symm heq] using h.turns b hb
  issued := h.issued
  taken := h.taken
  version := h.version
  uiState := h.uiState
  holds := h.holds

/-- A response is recorded as a turn of its session. -/
theorem Carried.addTurn (h : s.Carried shelf takes w) {p : Prompt} {birth : Nat}
    (hbirth : Assoc.get? p.session w.echo.sessions = some ⟨birth, s.turns p.session⟩) (said : String) :
    (s.addTurn p said).Carried shelf takes { w with echo := w.echo.record p.session birth p.text said } := by
  refine h.setTurns (fun turn hturn => ?_) (Echo.delay_record _ _ _ _ _) (Echo.history_record hbirth _ _)
  rcases List.mem_append.1 hturn with hturn | hturn
  · exact h.sound.legible _ _ hturn
  · obtain rfl := List.mem_singleton.1 hturn
    refine Json.legibleAt_obj_iff.2 ⟨Host.depthFault?_of_le (by decide), by simp [Assoc.keys], ?_⟩
    simpa using ⟨Json.legibleAt_str _, Json.legibleAt_str _⟩

/-- A tab gets a new session. -/
theorem Carried.openTab (h : s.Carried shelf takes w) (tab session : String) :
    (s.openTab tab session).Carried shelf takes
      { w with echo := (w.echo.create session).1, issued := w.issued + 1 } := by
  have hcreate := Echo.history_create w.echo session
  have hchanged : (s.setTurns session []).Carried shelf takes { w with echo := (w.echo.create session).1 } :=
    h.setTurns (fun _ hturn => absurd hturn List.not_mem_nil) rfl hcreate
  exact {
    sound := ⟨Assoc.nodup_keys_put _ _ h.sound.distinct, hchanged.sound.legible, h.sound.calm, h.sound.unsaved⟩
    delay := h.delay
    turns := fun b hb => by
      rcases Assoc.mem_put _ _ hb with rfl | hb
      · simpa [Chat.openTab, Chat.setTurns] using hcreate session
      · exact hchanged.turns b hb
    issued := congrArg (· + 1) h.issued
    taken := h.taken
    version := h.version
    uiState := h.uiState
    holds := h.holds }

/-- One more of the tabs is bound, and its session has its turns. -/
theorem Carried.bindNext {bound : TabMap} (h : ({ s with tabs := bound }).Carried shelf takes w) {b : String × String}
    (hdistinct : (Assoc.keys (bound ++ [b])).Nodup) {echo : Echo} (hdelay : echo.delay = w.echo.delay)
    (hhistory : ∀ session', echo.history session' =
      if b.2 = session' then .ok (s.turns b.2) else w.echo.history session') :
    ({ s with tabs := bound ++ [b] }).Carried shelf takes { w with echo := echo } where
  sound := ⟨hdistinct, h.sound.legible, h.sound.calm, h.sound.unsaved⟩
  delay := hdelay.trans h.delay
  turns := fun b' hb' => by
    rw [hhistory]
    by_cases heq : b.2 = b'.2
    · rw [if_pos heq, heq]
    · rw [if_neg heq]
      refine h.turns b' ((List.mem_append.1 hb').resolve_right fun hmem => heq ?_)
      rw [List.mem_singleton.1 hmem]
  issued := h.issued
  taken := h.taken
  version := h.version
  uiState := h.uiState
  holds := h.holds

end

end Chat

namespace Coordinator

section

variable (ids : Nat → String) (shelf : Shelf) (takes : Json → Prop)

/-- A handler comes to its end with an effect, and the surroundings keep the chat. -/
def Ends [Host] (t : Turn) (w : Surroundings) (e : Chat.Effect) : Prop :=
  ∃ w', Leads ids t w e.delivered (e.chat.coordinator shelf) w' e.result ∧ e.chat.Kept shelf takes w'

end

variable {ids : Nat → String} {shelf : Shelf} {takes : Json → Prop} {s : Chat} {w w' : Surroundings} {t : Turn}
  {e : Chat.Effect}

/-! ## Ends -/

section

variable [Host]

theorem Ends.finish (h : s.Kept shelf takes w) (outcome : Outcome) :
    Ends ids shelf takes (finish (s.coordinator shelf) outcome) w (s.nothing (.ok outcome)) :=
  ⟨w, .finished rfl, h⟩

theorem Ends.fail (h : s.Kept shelf takes w) (f : Fault) :
    Ends ids shelf takes (fail (s.coordinator shelf) f) w (s.nothing (.error f)) :=
  ⟨w, .finished rfl, h⟩

theorem Ends.ask {call : Call} {pt : Point} {a : Except Fault Answer} (hn : t.next = .waiting call pt)
    (ha : w.answer ids call = (a, w')) (hcall : ∀ event, call ≠ .deliver event)
    (h : Ends ids shelf takes (t.coordinator.resume a pt) w' e) : Ends ids shelf takes t w e := by
  obtain ⟨w'', hleads, hkept⟩ := h
  exact ⟨w'', hleads.ask hn ha hcall, hkept⟩

theorem Ends.deliver {event : Outbound} {pt : Point} (hn : t.next = .waiting (.deliver event) pt)
    (h : Ends ids shelf takes (t.coordinator.resume (.ok .done) pt) w e) :
    Ends ids shelf takes t w (e.after [event]) := by
  obtain ⟨w', hleads, hkept⟩ := h
  exact ⟨w', hleads.deliver hn, hkept⟩

theorem Ends.report (h : Ends ids shelf takes t w e) (notices : List Notice) :
    Ends ids shelf takes (t.report notices) w e := by
  obtain ⟨w', hleads, hkept⟩ := h
  exact ⟨w', hleads.report notices, hkept⟩

/-- A handler that saves, though not on leaving, ends with the save. -/
theorem ends_persist (h : s.Carried shelf takes w) (purpose : Purpose) (hstay : purpose ≠ .leaving)
    (uiState : Option Json) (hui : takes (s.save uiState).uiState) :
    Ends ids shelf takes (persist (s.coordinator shelf) purpose uiState) w
      ⟨s.save uiState, .ok (purpose.outcome s.saveResult), []⟩ := by
  obtain ⟨w', hleads, hkept⟩ := @leads_save ids shelf takes s w _ h (s.coordinator shelf) rfl rfl purpose uiState hui
  rw [coordinator_conclude _ hstay] at hleads
  exact ⟨w', hleads, hkept⟩

end

/-! ## Sending -/

section

variable (event : Outbound)

theorem send_hidden (h : s.visible = false) : (s.coordinator shelf).outbox.send event =
    ((s.post [event]).coordinator shelf).outbox.finish [.buffered event (s.queue.length + 1)] := by
  simp [Chat.coordinator, Chat.post, Outbox.send, h]

theorem send_visible (h : s.visible = true) (hcalm : s.visible = true → s.queue = []) :
    (s.coordinator shelf).outbox.send event =
      ⟨((s.post [event]).coordinator shelf).outbox, [], .waiting event (.direct event)⟩ := by
  simp [Chat.coordinator, Chat.post, Outbox.send, h, hcalm h]

variable {event}

/-- An event of a response is delivered or held back, and the relay goes on. -/
theorem ends_pass [Host] (hcalm : s.visible = true → s.queue = []) (p : Prompt) (handover : Relay.Handover)
    (h : Ends ids shelf takes
      (afterRelay ((s.post [event]).coordinator shelf) p (Relay.passed handover (.ok ()))) w e) :
    Ends ids shelf takes (afterPass (s.coordinator shelf) p handover ((s.coordinator shelf).outbox.send event)) w
      (e.after (s.shown [event])) := by
  cases hv : s.visible with
  | false =>
    rw [send_hidden event hv, Chat.shown, hv]
    exact h.report _
  | true =>
    rw [send_visible event hv hcalm, Chat.shown, hv]
    exact Ends.deliver rfl (h.report _)

/-- The failure of a response is delivered or held back, and the chat is saved. -/
theorem ends_report [Host] (hcalm : s.visible = true → s.queue = []) (p : Prompt) (cause : Fault) (chunksSent : Nat)
    (h : Ends ids shelf takes (persist ((s.post [event]).coordinator shelf) (.failing p cause chunksSent) none) w e) :
    Ends ids shelf takes
      (afterReport (s.coordinator shelf) p cause chunksSent ((s.coordinator shelf).outbox.send event)) w
      (e.after (s.shown [event])) := by
  cases hv : s.visible with
  | false =>
    rw [send_hidden event hv, Chat.shown, hv]
    exact h.report _
  | true =>
    rw [send_visible event hv hcalm, Chat.shown, hv]
    exact Ends.deliver rfl (h.report _)

end

/-! ## Responses -/

section

variable [Host]

/-- A relay pulls the chunks that are left, and closes the stream. -/
theorem ends_pulling (p : Prompt) {birth : Nat} {said : String} (left : List String) (sent : Nat)
    (hcalm : s.visible = true → s.queue = []) (hdelay : ∀ kind, w.echo.delay ≠ .unusable kind)
    (hnext : w.echo.next w.stream = w.echo.next (.running p.session birth p.text said left false))
    (h : Ends ids shelf takes
      (afterStep ((s.post (Chat.chunks p left)).coordinator shelf) p (Relay.finish (.exhausted (sent + left.length))))
      { w with echo := w.echo.record p.session birth p.text said, stream := .ended } e) :
    Ends ids shelf takes (afterRelay (s.coordinator shelf) p (.waiting .pullStream (.pulling sent))) w
      (e.after (s.shown (Chat.chunks p left))) := by
  -- The chunks that were sent go to the chat, so that the messages behind them are held back in their order.
  induction left generalizing s w sent e with
  | nil =>
    have hover : w.answer ids .pullStream =
        (.ok .exhausted, { w with echo := w.echo.record p.session birth p.text said, stream := .ended }) := by
      simp [Surroundings.answer, hnext, Echo.next_over, pulled]
    have hnone : e.after (s.shown []) = e := by simp [Chat.shown, Chat.Effect.after]
    have hpost : s.post [] = s := by simp [Chat.post]
    rw [Chat.chunks, List.map_nil, hpost] at h
    rw [Chat.chunks, List.map_nil, hnone]
    exact Ends.ask rfl hover (by simp) h
  | cons piece rest ih =>
    have hpiece : w.answer ids .pullStream = (.ok (.chunk (.str piece)),
        { w with stream := .running p.session birth p.text said rest false }) := by
      simp [Surroundings.answer, hnext, Echo.next_running hdelay, pulled]
    have hshown : e.after (s.shown (Chat.chunks p (piece :: rest))) =
        (e.after (s.shown (Chat.chunks p rest))).after (s.shown [.chunk p.tab p.message (.str piece)]) := by
      rw [Chat.after_after, Chat.shown_append]
      rfl
    rw [hshown]
    refine Ends.ask rfl hpiece (by simp) (ends_pass hcalm p (.chunk sent) ?_)
    refine ih (s := s.post [_]) (sent + 1) (s.post_calm _ hcalm) hdelay rfl ?_
    rw [Chat.post_post]
    rw [List.length_cons, ← Nat.add_assoc, Nat.add_right_comm] at h
    exact h

/-- The agent knows the session of a tab. -/
theorem session_known (h : s.Carried shelf takes w) {p : Prompt} (hp : s.tabs.session? p.tab = some p.session) :
    ∃ birth, Assoc.get? p.session w.echo.sessions = some ⟨birth, s.turns p.session⟩ :=
  Echo.history_eq_ok.1 (h.turns (p.tab, p.session) (Assoc.mem_of_get? hp))

/-- A prompt is answered whole. -/
theorem ends_complete (h : s.Kept shelf takes w) {p : Prompt} (hp : s.tabs.session? p.tab = some p.session)
    (hdelay : ∀ kind, s.delay ≠ .unusable kind) :
    Ends ids shelf takes (afterRelay (s.coordinator shelf) p (Relay.start p)) w (s.complete p) := by
  obtain ⟨birth, hbirth⟩ := session_known h.toCarried hp
  have hcalm := h.sound.calm
  let pieces := Echo.chunks (s.reply p)
  have heffect : s.complete p =
      ((⟨((s.post (Chat.response p pieces)).addTurn p (s.reply p)).save none,
          .ok (.relayCompleted p.tab p.message (0 + pieces.length) s.saveResult), []⟩ : Chat.Effect).after
        ((s.post (Chat.chunks p pieces)).shown [.complete p.tab p.message])).after
          (s.shown (Chat.chunks p pieces)) := by
    rw [Chat.after_after, Nat.zero_add]
    have hshown : s.shown (Chat.chunks p pieces) ++ (s.post (Chat.chunks p pieces)).shown [.complete p.tab p.message] =
        s.shown (Chat.response p pieces) := s.shown_append _ _
    rw [hshown, Chat.Effect.after, List.append_nil]
    rfl
  rw [heffect]
  have hopened : w.answer ids (.openStream p.session p.text) =
      (.ok .done, { w with stream := .fresh p.session p.text }) := rfl
  have hclosed (w : Surroundings) : w.answer ids .closeStream = (.ok .done, { w with stream := .ended }) := rfl
  refine Ends.ask rfl hopened (by simp) (ends_pulling p pieces 0 hcalm (h.delay ▸ hdelay)
    (Echo.next_fresh hbirth p.text) ?_)
  refine Ends.ask rfl (hclosed _) (by simp) (ends_pass (s.post_calm _ hcalm) p (.completion _) (Ends.report ?_ _))
  rw [Chat.post_post]
  exact ends_persist ((h.seen (s.post_calm _ hcalm) .ended).addTurn hbirth (s.reply p)) (.completing p _) (by simp) none
    h.uiState

/-- A prompt is not answered by an agent that cannot wait. -/
theorem ends_breakOff (h : s.Kept shelf takes w) {p : Prompt} (hp : s.tabs.session? p.tab = some p.session)
    {kind : String} (hdelay : s.delay = .unusable kind) :
    Ends ids shelf takes (afterRelay (s.coordinator shelf) p (Relay.start p)) w
      (s.breakOff p (.delayNotNumber kind)) := by
  obtain ⟨birth, hbirth⟩ := session_known h.toCarried hp
  have hcalm := h.sound.calm
  obtain ⟨piece, rest, hpieces⟩ := List.exists_cons_of_ne_nil (Echo.chunks_ne_nil (s.reply p))
  have hopened : w.answer ids (.openStream p.session p.text) =
      (.ok .done, { w with stream := .fresh p.session p.text }) := rfl
  have hnext : w.echo.next (.fresh p.session p.text) = (w.echo, .ended, .failed (.delayNotNumber kind)) := by
    rw [Echo.next_fresh hbirth, show Echo.chunks (Echo.reply _ p.text) = piece :: rest from hpieces,
      Echo.next_unusable (h.delay.trans hdelay)]
  have hfailed : ({ w with stream := .fresh p.session p.text } : Surroundings).answer ids .pullStream =
      (.error (.delayNotNumber kind), { w with stream := .ended }) := by
    simp [Surroundings.answer, hnext, pulled]
  have hclosed : ({ w with stream := .ended } : Surroundings).answer ids .closeStream =
      (.ok .done, { w with stream := .ended }) := rfl
  have heffect : s.breakOff p (.delayNotNumber kind) =
      (⟨(s.post [.failed p.tab p.message (Fault.delayNotNumber kind).text]).save none,
        .ok (.relayFailure p.tab p.message (Fault.delayNotNumber kind).text 0), []⟩ : Chat.Effect).after
          (s.shown [.failed p.tab p.message (Fault.delayNotNumber kind).text]) := by
    rw [Chat.Effect.after, List.append_nil]
    rfl
  rw [heffect]
  refine Ends.ask rfl hopened (by simp) (Ends.ask rfl hfailed (by simp) (Ends.ask rfl hclosed (by simp) ?_))
  refine Ends.report (ends_report hcalm p _ 0 ?_) _
  exact ends_persist (h.seen (s.post_calm _ hcalm) .ended) (.failing p _ 0) (by simp) none h.uiState

/-- What comes of a prompt to a tab that is bound. -/
theorem ends_answer (h : s.Kept shelf takes w) {p : Prompt} (hp : s.tabs.session? p.tab = some p.session) :
    Ends ids shelf takes (afterRelay (s.coordinator shelf) p (Relay.start p)) w (s.answer p) := by
  unfold Chat.answer
  split
  · next kind hdelay => exact ends_breakOff h hp hdelay
  · next hdelay => exact ends_complete h hp hdelay

/-! ## Hiding and showing -/

/-- A replay delivers every message that was held back. -/
theorem ends_replaying (h : s.Kept shelf takes w) (hvisible : s.visible = true) (queue : List Outbound) (count : Nat)
    (outbox : Outbox Outbound) :
    Ends ids shelf takes
      (afterReplay { s.coordinator shelf with outbox := outbox } (Outbox.replay ⟨true, queue, true, false⟩ count)) w
      ⟨s, .ok .shown, queue⟩ := by
  induction queue generalizing count outbox with
  | nil =>
    have hcoordinator : s.coordinator shelf = { s.coordinator shelf with outbox := ⟨true, [], false, false⟩ } := by
      simp [Chat.coordinator, hvisible, h.sound.calm hvisible]
    have hend : Ends ids shelf takes (finish (s.coordinator shelf) .shown) w ⟨s, .ok .shown, []⟩ := .finish h .shown
    rw [hcoordinator] at hend
    exact hend.report _
  | cons event rest ih =>
    have hend : Ends ids shelf takes _ w (Chat.Effect.after ⟨s, .ok .shown, rest⟩ [event]) :=
      Ends.deliver (t := afterReplay { s.coordinator shelf with outbox := outbox }
        (Outbox.replay ⟨true, event :: rest, true, false⟩ count)) rfl (ih (count + 1) ⟨true, rest, true, false⟩)
    exact hend

/-- The surface is shown. -/
theorem ends_release (h : s.Kept shelf takes w) :
    Ends ids shelf takes (afterReplay (s.coordinator shelf) (s.coordinator shelf).outbox.release) w
      ⟨{ s with visible := true, queue := [] }, .ok .shown, s.queue⟩ := by
  have hkept : ({ s with visible := true, queue := [] }).Kept shelf takes w :=
    ⟨h.seen (fun _ => rfl) w.stream, h.current⟩
  rcases hqueue : s.queue with _ | ⟨event, rest⟩
  · have hrelease : (s.coordinator shelf).outbox.release = Outbox.finish ⟨true, [], false, false⟩ [] := by
      simp [Chat.coordinator, Outbox.release, Outbox.flush, hqueue]
    rw [hrelease]
    exact (Ends.finish hkept .shown).report _
  · have hrelease : (s.coordinator shelf).outbox.release = Outbox.replay ⟨true, event :: rest, true, false⟩ 0 := by
      simp [Chat.coordinator, Outbox.release, Outbox.flush, hqueue]
    rw [hrelease]
    exact ends_replaying hkept rfl (event :: rest) 0 _

/-! ## The restored state -/

/-- What was restored is delivered. -/
theorem ends_announce (h : s.Kept shelf takes w) (restored : Restoration) (tabs : TabMap) (notices : List Notice) :
    Ends ids shelf takes
      (afterRestore { s.coordinator shelf with tabs := tabs } ⟨s.tabs, notices, .finished (.ok restored)⟩) w
      ⟨s, .ok (.stateRestored restored), [.restoreState restored.uiState]⟩ :=
  Ends.deliver (e := ⟨s, .ok (.stateRestored restored), []⟩) rfl (Ends.finish h _)

end

/-- A coordinator that has the tabs asks for no session. -/
theorem advance_live (hdistinct : (Assoc.keys s.tabs).Nodup) (progress : Restore.Progress) {bindings : TabMap}
    (hbound : ∀ b ∈ bindings, b ∈ s.tabs) : ∃ notices,
      Restore.advance s.tabs progress ((bindings.map s.record).map Snapshot.recordMember) =
        ⟨s.tabs, notices, .finished (.ok (.restored progress.uiState (progress.tabs.reverse ++ Assoc.keys bindings)
          progress.failures.reverse))⟩ := by
  induction bindings generalizing progress with
  | nil => exact ⟨[.restored progress.tabs.length], by simp [Restore.advance, Assoc.keys]⟩
  | cons b rest ih =>
    have hlive : s.tabs.session? (s.record b).tab = some (s.record b).session :=
      Assoc.get?_of_mem hdistinct (hbound b List.mem_cons_self)
    have hkeys : (progress.add b.1).tabs.reverse ++ Assoc.keys rest =
        progress.tabs.reverse ++ Assoc.keys (b :: rest) := by
      simp [Restore.Progress.add, Assoc.keys]
    rw [← hkeys, List.map_cons, List.map_cons, Restore.advance_bound hlive]
    exact ih (progress.add b.1) fun b hb => hbound b (List.mem_cons_of_mem _ hb)

/-- The surface is told what was kept. -/
theorem ends_restore [Host] (h : s.Kept shelf takes w) :
    Ends ids shelf takes (afterRestore (s.coordinator shelf) (Restore.start shelf s.tabs)) w
      ⟨s, .ok (.stateRestored s.restoration), [.restoreState s.restoration.uiState]⟩ := by
  have hstored : w.answer ids (.getValue shelf.key) = (.ok (.value (s.stored shelf s.records)), w) := by
    simp [Surroundings.answer, Chat.get_of_holds h.current, Except.map]
  refine Ends.ask rfl hstored (by simp) ?_
  obtain ⟨notices, hread⟩ : ∃ notices, Restore.read shelf s.tabs (s.stored shelf s.records) =
      ⟨s.tabs, notices, .finished (.ok s.restoration)⟩ := by
    unfold Chat.stored Chat.restoration
    split
    · rw [Restore.read_toJson]
      exact advance_live h.sound.distinct ⟨s.uiState, [], []⟩ fun _ hb => hb
    · exact ⟨_, rfl⟩
  show Ends ids shelf takes
    (afterRestore (s.coordinator shelf) (Restore.read shelf s.tabs (s.stored shelf s.records))) w _
  rw [hread]
  exact ends_announce h _ s.tabs notices

/-- A coordinator without tabs has the sessions resumed that it has not bound yet, in the order of the tabs. -/
theorem ends_reviving [Host] (hdistinct : (Assoc.keys s.tabs).Nodup) (pending : TabMap) {bound : TabMap}
    (hsplit : s.tabs = bound ++ pending) (h : ({ s with tabs := bound }).Carried shelf takes w)
    (hcurrent : w.storage.Holds (s.entries shelf s.records)) (tabs : TabMap) (notices : List Notice) :
    Ends ids shelf takes
      (afterRestore { s.coordinator shelf with tabs := tabs }
        ((Restore.advance bound ⟨s.uiState, (Assoc.keys bound).reverse, []⟩
          ((pending.map s.record).map Snapshot.recordMember)).report notices)) w
      ⟨s, .ok (.stateRestored (.restored s.uiState (Assoc.keys s.tabs) [])), [.restoreState s.uiState]⟩ := by
  -- The chat with the tabs that are bound so far is carried all along; only the stored records are those of all tabs.
  induction pending generalizing bound w tabs notices with
  | nil =>
    obtain rfl : s.tabs = bound := hsplit.trans (List.append_nil bound)
    have hkept : s.Kept shelf takes w := ⟨h, hcurrent⟩
    simp only [List.map_nil, Restore.advance, Restore.Turn.report, List.reverse_reverse, List.reverse_nil]
    exact ends_announce hkept _ _ _
  | cons b rest ih =>
    have hkeys : Assoc.keys s.tabs = Assoc.keys bound ++ b.1 :: Assoc.keys rest := by simp [hsplit, Assoc.keys]
    have hfresh : b.1 ∉ Assoc.keys bound := fun hmem =>
      (List.nodup_append.1 (hkeys ▸ hdistinct)).2.2 b.1 hmem b.1 List.mem_cons_self rfl
    have hbind : TabMap.bind bound b.1 b.2 = bound ++ [b] := Assoc.put_of_not_mem b.2 bound hfresh
    have hunbound : TabMap.session? bound (s.record b).tab = none := Assoc.get?_eq_none hfresh
    obtain ⟨echo, notices', hresume, hdelay, hhistory⟩ := Echo.resume_listed w.echo b.2 (s.turns b.2)
    have hrevived : w.answer ids (.resumeSession b.2 (s.record b).state) = (.ok .done, { w with echo := echo }) := by
      simp [Surroundings.answer, Chat.record, hresume, Except.map]
    have hprefix : Assoc.keys (bound ++ [b]) <+: Assoc.keys s.tabs :=
      ⟨Assoc.keys rest, by rw [hkeys]; simp [Assoc.keys]⟩
    have hcarried := h.bindNext (hdistinct.sublist hprefix.sublist) hdelay hhistory
    have hnext := ih (hsplit.trans (List.append_cons bound b rest)) hcarried hcurrent bound
      (TabMap.bindNotices bound b.1 b.2)
    have hprogress : (⟨s.uiState, (Assoc.keys (bound ++ [b])).reverse, []⟩ : Restore.Progress) =
        (⟨s.uiState, (Assoc.keys bound).reverse, []⟩ : Restore.Progress).add b.1 := by
      simp [Restore.Progress.add, Assoc.keys]
    rw [hprogress, ← hbind] at hnext
    rw [List.map_cons, List.map_cons, Restore.advance_unbound hunbound]
    exact Ends.ask rfl hrevived (by simp) hnext

variable (ids) in
/-- A coordinator that comes after another one is told what was kept, and has the sessions resumed. -/
theorem ends_revive [Host] (h : s.Kept shelf takes w) (hsaved : s.saved = true) (hvisible : s.visible = true) :
    Ends ids shelf takes (afterRestore (new shelf true) (Restore.start shelf []))
      { w with echo := .new s.delay, stream := .ended }
      ⟨s, .ok (.stateRestored (.restored s.uiState (Assoc.keys s.tabs) [])), [.restoreState s.uiState]⟩ := by
  have hnew : new shelf true = { s.coordinator shelf with tabs := [] } := by
    simp [Chat.coordinator, new, Outbox.new, hvisible, h.sound.calm hvisible]
  have hstored : ({ w with echo := .new s.delay, stream := .ended } : Surroundings).answer ids (.getValue shelf.key) =
      (.ok (.value (s.stored shelf s.records)), { w with echo := .new s.delay, stream := .ended }) := by
    simp [Surroundings.answer, Chat.get_of_holds h.current, Except.map]
  have hread : Restore.read shelf [] (s.stored shelf s.records) =
      (Restore.advance [] ⟨s.uiState, [], []⟩ ((s.tabs.map s.record).map Snapshot.recordMember)).report [] := by
    unfold Chat.stored
    rw [if_pos hsaved, Restore.read_toJson]
    rfl
  have hcarried : ({ s with tabs := [] }).Carried shelf takes { w with echo := .new s.delay, stream := .ended } := {
    h.toCarried with
    sound := ⟨List.nodup_nil, h.sound.legible, h.sound.calm, h.sound.unsaved⟩
    delay := rfl
    turns := fun b hb => absurd hb List.not_mem_nil }
  rw [hnew]
  refine Ends.ask rfl hstored (by simp) ?_
  show Ends ids shelf takes (afterRestore { s.coordinator shelf with tabs := [] }
    (Restore.read shelf [] (s.stored shelf s.records))) _ _
  rw [hread]
  exact ends_reviving h.sound.distinct s.tabs rfl hcarried h.current [] []

/-! ## Requests -/

/-- A request that is no shutdown, and keeps no state that a store does not take. -/
def Request.Suits (takes : Json → Prop) (r : Request) : Prop :=
  r ≠ .shutdown ∧ ∀ state, r.Asks (.saveState state) → takes state

theorem Request.Asks.suits {r : Request} {event : Inbound} (h : r.Asks event)
    (hstate : ∀ state, event = .saveState state → takes state) : r.Suits takes := by
  refine ⟨?_, fun state hasks => hstate state (h.unique hasks)⟩
  rintro rfl
  obtain ⟨_, ⟨⟩, _⟩ := h

theorem suits_hidden (takes : Json → Prop) : Request.hidden.Suits takes := ⟨by simp, fun _ ⟨_, h, _⟩ => by cases h⟩

theorem suits_visible (takes : Json → Prop) : Request.visible.Suits takes := ⟨by simp, fun _ ⟨_, h, _⟩ => by cases h⟩

/-- A message that makes no request changes nothing. -/
theorem ends_drop [Host] (h : s.Kept shelf takes w) (refusal : Inbound.Refusal) :
    Ends ids shelf takes (drop (s.coordinator shelf) refusal) w (s.nothing (refusal.text.map .invalidEvent)) := by
  unfold drop
  cases refusal.text with
  | ok reason => exact (Ends.finish h (.invalidEvent reason)).report _
  | error f => exact Ends.fail h f

/-- A well-formed message is handled to its end. -/
theorem ends_event [Host] (h : s.Kept shelf takes w) (event : Inbound)
    (hstate : ∀ state, event = .saveState state → takes state) :
    Ends ids shelf takes (beginEvent (s.coordinator shelf) event) w (s.event ids event) := by
  cases event with
  | newTab tab =>
    have hcreated : w.answer ids .createSession = (.ok (.session (ids s.issued)),
        { w with echo := (w.echo.create (ids s.issued)).1, issued := w.issued + 1 }) := by
      simp [Surroundings.answer, h.issued]
    refine Ends.ask rfl hcreated (by simp) (Ends.report ?_ _)
    exact ends_persist (h.openTab tab (ids s.issued)) (.opening tab (ids s.issued)) (by simp) none h.uiState
  | prompt tab message text =>
    have htabs : (s.coordinator shelf).tabs = s.tabs := rfl
    simp only [beginEvent, Chat.event, htabs]
    rcases hsession : s.tabs.session? tab with _ | session
    · exact (Ends.finish h _).report _
    · exact ends_answer (p := ⟨tab, message, session, text⟩) h hsession
  | saveState state => exact ends_persist h.toCarried .keeping (by simp) (some state) (hstate state rfl)
  | requestSavedState => exact ends_restore h

variable (ids) in
/-- Every request but a shutdown is handled to its end. -/
theorem ends_step [Host] (h : s.Kept shelf takes w) {r : Request} (hr : r.Suits takes) :
    Ends ids shelf takes (begin (s.coordinator shelf) r) w (s.step ids r) := by
  cases r with
  | inbound m =>
    have hopen : (s.coordinator shelf).closed = false := rfl
    simp only [begin, beginInbound, hopen, Chat.step, Bool.false_eq_true, if_false]
    rcases hm : Inbound.ofJson m with refusal | event
    · exact ends_drop h refusal
    · exact ends_event h event fun state hstate => hr.2 state ⟨m, rfl, hstate ▸ hm⟩
  | hidden => exact (ends_persist (h.seen (fun hv => absurd hv Bool.false_ne_true) w.stream) .hiding (by simp) none
      h.uiState).report _
  | visible => exact (ends_release h).report _
  | shutdown => exact absurd rfl hr.1

end Coordinator

end ChatRelay
