import ChatRelay.Proofs.Coordinator.Talking

/-!
# Tabs are isolated

All tabs share the coordinator, the store, the outbox and the agent, and what is done for them is interleaved. Still a
tab is told what it would be told alone.

- `turn`, `conversation`: what a tab is told when it was asked something, and when it was asked one thing after the
  other;
- `messagesOf`: the messages of a tab among those that were emitted;
- `Ensemble.Answering`: the messages of a tab are those of its conversation (`Ensemble.answering_change`). It rests on
  `Ensemble.Housed`, every tab has a session of its own, and on `Ensemble.Talking`, the turns of a session are those of
  its tab;
- `Ensemble.tabs_isolated`: in every orderly schedule a tab is told its conversation, as it is when only its own
  requests come.
-/

namespace ChatRelay

/-- The tab that a message is for. -/
def Outbound.tab? : Outbound → Option String
  | .chunk tab _ _ => some tab
  | .complete tab _ => some tab
  | .failed tab _ _ => some tab
  | .restoreState _ => none

/-- The message whose response a message belongs to. -/
def Outbound.message? : Outbound → Option String
  | .chunk _ message _ => some message
  | .complete _ message => some message
  | .failed _ message _ => some message
  | .restoreState _ => none

/-- The text of a chunk. -/
def Outbound.text? : Outbound → Option String
  | .chunk _ _ (.str s) => some s
  | _ => none

namespace Coordinator

open Outbox (Traffic)
open Outbox.Traffic (eventsOf)

/-! ## Conversations -/

/-- What a tab is told in a turn. -/
def turn (tab : String) (k : Nat) (message text : String) : List Outbound :=
  (Echo.chunks (Echo.reply k text)).map (fun piece => .chunk tab message (.str piece)) ++ [.complete tab message]

/-- What a tab is told when it is asked one thing after the other, from a turn on. -/
def conversation (tab : String) (k : Nat) : List (String × String) → List Outbound
  | [] => []
  | (message, text) :: rest => turn tab k message text ++ conversation tab (k + 1) rest

theorem conversation_concat (tab : String) (k : Nat) (xs : List (String × String)) (message text : String) :
    conversation tab k (xs ++ [(message, text)]) =
      conversation tab k xs ++ turn tab (k + xs.length) message text := by
  induction xs generalizing k with
  | nil => simp [conversation]
  | cons x xs ih => simp [conversation, ih, Nat.add_assoc, Nat.add_comm 1]

/-- The chunks of a turn put together are what the agent says in it. -/
theorem join_turn (tab : String) (k : Nat) (message text : String) :
    String.join ((turn tab k message text).filterMap Outbound.text?) = Echo.reply k text := by
  have hchunks (pieces : List String) :
      (pieces.map (fun piece => Outbound.chunk tab message (.str piece))).filterMap Outbound.text? = pieces := by
    induction pieces with
    | nil => rfl
    | cons piece rest ih => simp [Outbound.text?, ih]
  have hend : [Outbound.complete tab message].filterMap Outbound.text? = [] := rfl
  rw [turn, List.filterMap_append, hchunks, hend, List.append_nil, Echo.join_chunks]

theorem mem_turn {tab message text : String} {k : Nat} {e : Outbound} (h : e ∈ turn tab k message text) :
    e.tab? = some tab ∧ e.message? = some message := by
  rcases List.mem_append.1 h with h | h
  · obtain ⟨piece, -, rfl⟩ := List.mem_map.1 h
    exact ⟨rfl, rfl⟩
  · obtain rfl := List.mem_singleton.1 h
    exact ⟨rfl, rfl⟩

/-! ## Messages of a tab -/

/-- The letters for a tab. -/
def forTab (tab : String) (l : Outbox.Letter Outbound) : Bool := l.event.tab? = some tab

/-- The messages for a tab. -/
def messagesOf (tab : String) (ls : List (Outbox.Letter Outbound)) : List Outbound :=
  (Outbox.Traffic.ofKind (forTab tab) ls).map (·.event)

theorem messagesOf_append (tab : String) (ls ls' : List (Outbox.Letter Outbound)) :
    messagesOf tab (ls ++ ls') = messagesOf tab ls ++ messagesOf tab ls' := by simp [messagesOf]

theorem messagesOf_of_all {tab : String} {ls : List (Outbox.Letter Outbound)}
    (h : ∀ e ∈ ls.map (·.event), e.tab? = some tab) : messagesOf tab ls = ls.map (·.event) := by
  rw [messagesOf, Outbox.Traffic.ofKind, List.filter_eq_self.2]
  exact fun l hl => decide_eq_true (h l.event (List.mem_map_of_mem hl))

theorem messagesOf_of_none {tab : String} {ls : List (Outbox.Letter Outbound)}
    (h : ∀ e ∈ ls.map (·.event), e.tab? ≠ some tab) : messagesOf tab ls = [] := by
  rw [messagesOf, Outbox.Traffic.ofKind, List.filter_eq_nil_iff.2, List.map_nil]
  exact fun l hl => by simpa [forTab] using h l.event (List.mem_map_of_mem hl)

/-- The messages of a response are for its tab, and name the message it responds to. -/
theorem mem_response {h : Handler} {tab message : String} {e : Outbound} (he : e ∈ h.response tab message) :
    e.tab? = some tab ∧ e.message? = some message := by
  rcases List.mem_append.1 he with he | he
  · obtain ⟨piece, -, rfl⟩ := List.mem_map.1 he
    exact ⟨rfl, rfl⟩
  · obtain ⟨x, -, hx⟩ := List.exists_of_findSome?_eq_some (Option.mem_toList.1 he)
    unfold Coordinator.terminal? at hx
    split at hx <;> first | (cases hx; exact ⟨rfl, rfl⟩) | cases hx

theorem Pace.tab {tab message : String} {h : Handler} {sent : List Outbound} (hp : Pace tab message h sent)
    {e : Outbound} (he : e ∈ sent) : e.tab? = some tab ∧ e.message? = some message := by
  rcases hp with ⟨-, -, rfl⟩ | ⟨p, owed, -, -, -, hsent⟩
  · cases he
  · exact mem_response (h := h) (hsent ▸ List.mem_append_left _ he)

/-- What was sent in response to a prompt begins what the tab is told in its turn, and is all of it when the handler is
finished. -/
theorem sent_of_told {e : Echo} {p : Prompt} {k : Nat} {stream : Echo.Stream} {h : Handler} {sent : List Outbound}
    (ht : Told e p (Echo.reply k p.text) stream h) (hp : Pace p.tab p.message h sent) :
    sent <+: turn p.tab k p.message p.text ∧ (h.Finished → sent = turn p.tab k p.message p.text) := by
  have hwhole (hpieces : h.pieces = (Echo.chunks (Echo.reply k p.text)).map .str)
      (hend : h.terminal? p.tab p.message = some (.complete p.tab p.message)) :
      h.response p.tab p.message = turn p.tab k p.message p.text := by
    simp [Handler.response, hpieces, hend, turn]
  have hresponse : h.response p.tab p.message <+: turn p.tab k p.message p.text := by
    cases ht with
    | opening call hstatus hnone =>
      simp [Handler.response, Handler.pieces, Handler.terminal?, hnone]
    | midway told hspeaking hmidway hpieces hnone =>
      rw [Handler.response, hpieces, hnone, List.map_map]
      simpa [turn, Function.comp_def] using (hmidway.begins.map _).trans (List.prefix_append _ _)
    | whole hpieces hend => rw [hwhole hpieces hend]
  rcases hp with ⟨-, hnone, rfl⟩ | ⟨q, owed, -, -, hstage, hsent⟩
  · refine ⟨List.nil_prefix, fun hfinished => ?_⟩
    have hend := (ht.finished hfinished).2
    simp [Handler.terminal?, hnone] at hend
  · refine ⟨List.IsPrefix.trans ⟨owed, hsent⟩ hresponse, fun hfinished => ?_⟩
    obtain ⟨hpieces, hend⟩ := ht.finished hfinished
    obtain ⟨result, hresult⟩ := hfinished
    obtain ⟨-, -, rfl⟩ := hstage.of_finished hresult
    rw [← hwhole hpieces hend, ← hsent, List.append_nil]

/-! ## The mail -/

/-- A handler that answers no prompt sends nothing. -/
theorem sends_eq_nil {pt : Point} {r : Request} (hpt : pt.Serves r) (hr : ∀ tab, r.prompts? ≠ some tab)
    (c : Coordinator) (a : Except Fault Answer) (i : Nat) : c.sends a i pt = [] := by
  have hnot {p : Prompt} : ¬ r.AsksPrompt p := fun hask => hr p.tab (Request.prompts?_eq_some.2 ⟨_, _, hask⟩)
  cases pt with
  | relaying p pt => exact absurd hpt hnot
  | passing p handover pt => exact absurd hpt hnot
  | reporting p cause n pt => exact absurd hpt hnot
  | saving purpose pt =>
    cases purpose with
    | leaving =>
      cases pt with
      | writing => cases a <;> rfl
      | _ => rfl
    | _ => rfl
  | _ => rfl

/-- What the errands of a calm handler add to the letters sent. -/
theorem sent_errands {pt : Point} {shelf : Shelf} {call : Call} (hask : pt.Asks shelf false call)
    {a : Except Fault Answer} (hm : mild call a = true) (c : Coordinator) (i : Nat) (t : Traffic Outbound) :
    ∃ ls, (t.run (c.errands i a pt)).sent = t.sent ++ ls ∧ ls.map (·.event) = c.sends a i pt := by
  unfold sends
  rcases errands_calm hask hm c i with he | ⟨e, he, -⟩ | he <;> rw [he]
  · exact ⟨[], (List.append_nil _).symm, rfl⟩
  · exact ⟨_, Outbox.Traffic.sent_posted t (.send i e), by simp [Outbox.Traffic.posted, Outbox.Move.sends,
      Outbox.Traffic.nextLetter]⟩
  · exact ⟨_, Outbox.Traffic.sent_posted t (.settle i (.ok ())), rfl⟩

theorem Scene.traffic_concat [Host] (s : Scene) (t : Traffic Outbound) (moves : List Move) (m : Move) :
    s.traffic t (moves ++ [m]) = (s.traffic t moves).run ((s.run moves).errands m) := by
  induction moves generalizing s t with
  | nil => rfl
  | cons m' moves ih => exact ih (s.step m') _

namespace Ensemble

/-- The letters that were sent so far, and what has become of them. -/
def mail [Host] (shelf : Shelf) (visible : Bool) (s : Ensemble) : Traffic Outbound := Scene.mail shelf visible s.past

/-- A tab is told what its conversation is, up to the response that is under way, and only by handlers of its prompts.
Its messages stay in their order. -/
structure Answering (s : Ensemble) (t : Traffic Outbound) : Prop where
  silent : ∀ (i : Nat) (h : Handler), s.scene.handlers[i]? = some h → (∀ tab, h.request.prompts? ≠ some tab) →
    eventsOf i t.sent = []
  current : ∀ (i : Nat) (h : Handler) (tab : String), s.scene.handlers[i]? = some h →
    h.request.prompts? = some tab → ¬ h.Finished →
    messagesOf tab t.sent = conversation tab 1 (asked tab (s.scene.requests.take i)) ++ eventsOf i t.sent
  settled : ∀ tab, (∀ h ∈ s.scene.handlers, h.request.prompts? = some tab → h.Finished) →
    messagesOf tab t.sent = conversation tab 1 (asked tab s.scene.requests)
  queued : ∀ tab, Outbox.Traffic.Queued (forTab tab) t

theorem answering_start [Host] (shelf : Shelf) (visible : Bool) (delay : Delay) :
    Answering (start shelf visible delay) (mail shelf visible (start shelf visible delay)) where
  silent := fun _ _ hi => nomatch hi
  current := fun _ _ _ hi => nomatch hi
  settled := fun _ _ => rfl
  queued := fun tab => Outbox.Traffic.queued_start (forTab tab) visible

section

variable [Host] {ids : Nat → String} {shelf : Shelf} {visible : Bool} {s s' : Ensemble} (hb : Backed shelf visible s)
  (ht : Talking s) (h : Answering s (s.mail shelf visible))
include hb

theorem mail_begun (r : Request) :
    (s.begun r).mail shelf visible = (s.mail shelf visible).run (s.scene.errands (.begin r)) := by
  rw [hb.scene]
  exact Scene.traffic_concat ..

theorem mail_answered {i : Nat} {r : Request} {d : List (Call × Except Fault Answer)} {call : Call} {pt : Point}
    (hi : s.scene.handlers[i]? = some ⟨r, d, .waiting call pt⟩) (a : Except Fault Answer) (p : Play) :
    (s.answered i a p).mail shelf visible = (s.mail shelf visible).run (s.scene.coordinator.errands i a pt) := by
  have herrands : s.scene.errands (.answer i a) = s.scene.coordinator.errands i a pt := by simp only [Scene.errands, hi]
  rw [← herrands, hb.scene]
  exact Scene.traffic_concat ..

/-- A message that was sent responds to the prompt of its sender. -/
theorem tab_of_sent (hsilent : ∀ (i : Nat) (h : Handler), s.scene.handlers[i]? = some h →
      (∀ tab, h.request.prompts? ≠ some tab) → eventsOf i (s.mail shelf visible).sent = [])
    {i : Nat} {e : Outbound} (he : e ∈ eventsOf i (s.mail shelf visible).sent) :
    ∃ h tab message text, s.scene.handlers[i]? = some h ∧ h.request.Asks (.prompt tab message text) ∧
      e.tab? = some tab ∧ e.message? = some message := by
  have hlt : i < s.scene.handlers.length := by
    by_contra hge
    rw [show eventsOf i (s.mail shelf visible).sent = [] from hb.responding.fresh i (Nat.le_of_not_lt hge)] at he
    cases he
  have hi := List.getElem?_eq_getElem hlt
  by_cases hprompt : ∃ tab, s.scene.handlers[i].request.prompts? = some tab
  · obtain ⟨tab, htab⟩ := hprompt
    obtain ⟨message, text, hask⟩ := Request.prompts?_eq_some.1 htab
    obtain ⟨m, hm, hask'⟩ := id hask
    have hpace := hb.responding.pace i _ hi m tab message text hm hask'
    exact ⟨_, tab, message, text, hi, hask, hpace.tab he⟩
  · rw [hsilent i _ hi fun tab htab => hprompt ⟨tab, htab⟩] at he
    cases he

include h in
/-- A letter for a tab that its sender delivers itself is from a handler that answers a prompt of the tab. -/
theorem waits_of_direct {tab : String} {l : Outbox.Letter Outbound}
    (hl : l ∈ Outbox.Traffic.directs (s.mail shelf visible).waiting) (htab : l.event.tab? = some tab) :
    ∃ h, s.scene.handlers[l.sender]? = some h ∧ h.request.prompts? = some tab ∧ ¬ h.Finished ∧
      ¬ (s.mail shelf visible).Idle l.sender := by
  have hserved := hb.responding.served
  obtain ⟨w, hw, hpoint⟩ := List.mem_filterMap.1 hl
  have hdirect : w.point = .direct l := by
    rcases hp : w.point with l' | ⟨l', n⟩ <;> rw [hp] at hpoint <;> cases hpoint
    rfl
  have hbusy : ¬ (s.mail shelf visible).Idle l.sender := fun hidle =>
    hidle w hw (hserved.own w hw l hdirect).symm
  have hsent : l.event ∈ eventsOf l.sender (s.mail shelf visible).sent := by
    refine List.mem_map.2 ⟨l, ?_, rfl⟩
    rw [show Outbox.lettersOf l.sender (s.mail shelf visible).sent = _ from hserved.split l.sender]
    exact List.mem_append_right _ (List.mem_append_left _ (List.mem_filter.2 ⟨hl, by simp⟩))
  obtain ⟨h', tab', message, text, hi, hask, htab', -⟩ := tab_of_sent hb h.silent hsent
  obtain rfl : tab' = tab := Option.some.inj (htab'.symm.trans htab)
  refine ⟨h', hi, Request.prompts?_eq_some.2 ⟨message, text, hask⟩, ?_, hbusy⟩
  rintro ⟨result, hresult⟩
  apply hbusy
  rw [← Outbox.Traffic.pointOf_eq_none, show (s.mail shelf visible).pointOf l.sender = _ from
    hb.responding.mirrors.points l.sender, Scene.pointOf, hi, Option.bind_some, hresult]
  rfl

end

/-! ### Requests -/

section

variable [Host] {ids : Nat → String} {shelf : Shelf} {visible : Bool} {s s' : Ensemble} (hb : Backed shelf visible s)
  (hh : Housed ids s) (ht : Talking s) (h : Answering s (s.mail shelf visible))
include hb h

include hh in
/-- A request sends nothing. -/
theorem answering_begin {r : Request} (hr : s.Admits r) : Answering (s.begun r) ((s.begun r).mail shelf visible) := by
  have hserved := hb.responding.served
  have hsent : ((s.mail shelf visible).run (s.scene.errands (.begin r))).sent = (s.mail shelf visible).sent := by
    cases r <;> simp [Scene.errands, Outbox.Traffic.run, Outbox.Traffic.sent_posted, Outbox.Traffic.posted]
  rw [mail_begun hb]
  refine ⟨fun i h' hi hsilent => ?_, fun i h' tab hi htab hwaits => ?_, fun tab hall => ?_, fun tab => ?_⟩
  · rw [hsent]
    rcases Schedule.handler_begin hi with hi | ⟨hle, -⟩
    · exact h.silent i h' hi hsilent
    · exact hb.responding.fresh i hle
  · rw [hsent]
    rcases Schedule.handler_begin hi with hi' | ⟨hle, rfl⟩
    · rw [requests_begun, List.take_append_of_le_length
        (by simpa [Scene.requests] using Nat.le_of_lt (List.getElem?_eq_some_iff.1 hi').1)]
      exact h.current i h' tab hi' htab hwaits
    · -- what the tab was asked before is over
      obtain rfl : i = s.scene.handlers.length := by
        have hlt := (List.getElem?_eq_some_iff.1 hi).1
        simp only [scene_begun, List.length_append, List.length_singleton] at hlt
        omega
      rw [show eventsOf s.scene.handlers.length (s.mail shelf visible).sent = [] from hb.responding.fresh _ hle,
        List.append_nil, requests_begun, List.take_append_of_le_length (by simp [Scene.requests]),
        List.take_of_length_le (by simp [Scene.requests])]
      exact h.settled tab fun h' hmem htab' => hr.settled tab htab h' hmem (.inr htab')
  · rw [hsent, requests_begun, asked_append]
    by_cases hprompt : r.prompts? = some tab
    · -- the new handler has its response still before it
      obtain ⟨message, text, hask⟩ := Request.prompts?_eq_some.1 hprompt
      have hmem : _ ∈ (s.begun r).scene.handlers := List.mem_append_right _ (List.mem_singleton_self _)
      have hbound := (housed_begin hb hh hr).prompted _ hmem tab hprompt
      rw [tabs_begun] at hbound
      obtain ⟨session, hsession⟩ := Option.ne_none_iff_exists'.1 hbound
      obtain ⟨result, hresult⟩ := hall _ hmem hprompt
      cases hresult.symm.trans (opening_begin hb hask hsession)
    · have hnone : asked tab [r] = [] := asked_eq_nil (by simpa using hprompt)
      rw [hnone, List.append_nil]
      exact h.settled tab fun h' hmem => hall h' (List.mem_append_left _ hmem)
  · cases r with
    | hidden => exact hserved.queued_quiet (m := .hold) (h.queued tab) trivial (by simp)
    | visible => exact hserved.queued_quiet (m := .release _) (h.queued tab) trivial (by simp)
    | _ => exact h.queued tab

include ht in
/-- A handler that sends a message for a tab does so when no letter for the tab is on the direct way. -/
theorem queued_answered {i : Nat} {r : Request} {d : List (Call × Except Fault Answer)} {call : Call} {pt : Point}
    (hi : s.scene.handlers[i]? = some ⟨r, d, .waiting call pt⟩) {a : Except Fault Answer} (hmild : mild call a = true)
    (hsends : ∀ e ∈ s.scene.coordinator.sends a i pt, ∀ tab, e.tab? = some tab → r.prompts? = some tab) (tab : String) :
    Outbox.Traffic.Queued (forTab tab) ((s.mail shelf visible).run (s.scene.coordinator.errands i a pt)) := by
  have hserved := hb.responding.served
  have hask := hb.asking.asks _ (List.mem_of_getElem? hi) call pt rfl
  rw [hb.unclosed] at hask
  rcases errands_calm hask hmild s.scene.coordinator i with he | ⟨e, he, hout⟩ | he
  · rw [he]
    exact h.queued tab
  · rw [he]
    refine hserved.queued_step (m := .send i e) (h.queued tab) trivial fun task e' hsend htab => ?_
    cases hsend
    by_contra hdirect
    obtain ⟨l, hl⟩ := List.exists_mem_of_ne_nil _ hdirect
    obtain ⟨hl, hltab⟩ := List.mem_filter.1 hl
    obtain ⟨h', hj, htab', hwaits, hbusy⟩ := waits_of_direct hb h hl (of_decide_eq_true hltab)
    have hrtab : r.prompts? = some tab :=
      hsends e (by simp [sends, he, Outbox.Move.sends]) tab (of_decide_eq_true htab)
    obtain rfl := ht.one hj hi htab' hrtab hwaits Schedule.Handler.unfinished
    refine hbusy (Outbox.Traffic.pointOf_eq_none.1 ?_)
    rw [show (s.mail shelf visible).pointOf l.sender = _ from hb.responding.mirrors.points l.sender, Scene.pointOf, hi]
    exact hout
  · rw [he]
    exact hserved.queued_quiet (m := .settle i (.ok ())) (h.queued tab) rfl (by simp)

/-! ### Answers -/

section

variable {i : Nat} {r : Request} {d : List (Call × Except Fault Answer)} {call : Call} {pt : Point}
  (hi : s.scene.handlers[i]? = some ⟨r, d, .waiting call pt⟩) {a : Except Fault Answer} {p : Play}

omit h in
include hi in
theorem eventsOf_answered (j : Nat) : eventsOf j ((s.answered i a p).mail shelf visible).sent =
    eventsOf j (s.mail shelf visible).sent ++ if j = i then s.scene.coordinator.sends a i pt else [] := by
  rw [mail_answered hb hi, Outbox.Traffic.sent_run]
  split
  · next hj => rw [hj, sends]
  · next hj => rw [sends_other (Ne.symm hj)]

include hi in
/-- A handler that answers no prompt still has sent nothing. -/
theorem silent_answered (j : Nat) (h' : Handler) (hj : (s.answered i a p).scene.handlers[j]? = some h')
    (hsilent : ∀ tab, h'.request.prompts? ≠ some tab) :
    eventsOf j ((s.answered i a p).mail shelf visible).sent = [] := by
  obtain ⟨h₀, hj₀, hrequest⟩ := handler_before hi hj
  rw [eventsOf_answered hb hi, h.silent j h₀ hj₀ (hrequest ▸ hsilent)]
  split
  · next hji =>
    subst hji
    obtain rfl := Option.some.inj (hi.symm.trans hj₀)
    exact sends_eq_nil (hb.serving _ (List.mem_of_getElem? hi) call pt rfl) (hrequest ▸ hsilent) ..
  · rfl

include hi in
/-- What a handler sends is for the tab that it answers. -/
theorem tab_of_sends (hb' : Backed shelf visible (s.answered i a p)) {e : Outbound}
    (he : e ∈ s.scene.coordinator.sends a i pt) : ∃ tab, r.prompts? = some tab ∧ e.tab? = some tab := by
  have hsent : e ∈ eventsOf i ((s.answered i a p).mail shelf visible).sent := by
    rw [eventsOf_answered hb hi, if_pos rfl]
    exact List.mem_append_right _ he
  obtain ⟨h', tab, message, text, hj, hask, htab, -⟩ := tab_of_sent hb' (silent_answered hb h hi) hsent
  obtain ⟨h₀, hj₀, hrequest⟩ := handler_before hi hj
  obtain rfl := Option.some.inj (hi.symm.trans hj₀)
  obtain rfl : r = h'.request := hrequest
  exact ⟨tab, Request.prompts?_eq_some.2 ⟨message, text, hask⟩, htab⟩

include hi in
/-- The messages of a tab after an answer. -/
theorem messagesOf_answered (hb' : Backed shelf visible (s.answered i a p)) (hmild : mild call a = true)
    (tab : String) : messagesOf tab ((s.answered i a p).mail shelf visible).sent =
      messagesOf tab (s.mail shelf visible).sent ++
        if r.prompts? = some tab then s.scene.coordinator.sends a i pt else [] := by
  have hask := hb.asking.asks _ (List.mem_of_getElem? hi) call pt rfl
  rw [hb.unclosed] at hask
  obtain ⟨ls, hls, hevents⟩ := sent_errands hask hmild s.scene.coordinator i (s.mail shelf visible)
  rw [mail_answered hb hi, hls, messagesOf_append]
  congr 1
  split
  · next hr =>
    rw [messagesOf_of_all, hevents]
    intro e he
    obtain ⟨tab', hr', htab⟩ := tab_of_sends hb h hi hb' (hevents ▸ he)
    rw [htab, ← hr', hr]
  · next hr =>
    refine messagesOf_of_none fun e he htab => hr ?_
    obtain ⟨tab', hr', htab'⟩ := tab_of_sends hb h hi hb' (hevents ▸ he)
    rw [hr', ← htab', htab]

include ht hi in
theorem answering_answer (hb' : Backed shelf visible (s.answered i a p)) (ht' : Talking (s.answered i a p))
    (hmild : mild call a = true) :
    Answering (s.answered i a p) ((s.answered i a p).mail shelf visible) := by
  have hscene := scene_answered hi a p
  have hrequests := requests_answered hi a p
  have hwaits : ¬ (⟨r, d, .waiting call pt⟩ : Handler).Finished := Schedule.Handler.unfinished
  refine ⟨silent_answered hb h hi, fun j h' tab hj htab hjwaits => ?_, fun tab hall => ?_, fun tab => ?_⟩
  · rw [hrequests, messagesOf_answered hb h hi hb' hmild, eventsOf_answered hb hi]
    rw [hscene] at hj
    rcases Schedule.handler_answer hj with ⟨hji, hj⟩ | ⟨rfl, rfl⟩
    · have hother : r.prompts? ≠ some tab := fun hr => hji (ht.one hj hi htab hr hjwaits hwaits)
      rw [if_neg hother, if_neg hji, List.append_nil, List.append_nil]
      exact h.current j h' tab hj htab hjwaits
    · have hrtab : r.prompts? = some tab := htab
      rw [if_pos hrtab, if_pos rfl, h.current j _ tab hi hrtab hwaits, List.append_assoc]
  · rw [hrequests, messagesOf_answered hb h hi hb' hmild]
    have hi' : (s.answered i a p).scene.handlers[i]? = some
        ⟨r, d ++ [(call, a)], (s.scene.coordinator.resume a pt).next⟩ := by
      rw [hscene, List.getElem?_set_self (List.getElem?_eq_some_iff.1 hi).1]
    split
    · next hr =>
      -- the turn is told to its end
      obtain ⟨message, text, hask⟩ := Request.prompts?_eq_some.1 hr
      obtain ⟨m, hm, hask'⟩ := id hask
      obtain ⟨session, -, htold⟩ := ht'.told i _ tab message text hi' hask
      have hturn := (sent_of_told htold (hb'.responding.pace i _ hi' m tab message text hm hask')).2
        (hall _ (List.mem_of_getElem? hi') hr)
      have hsent : eventsOf i (s.mail shelf visible).sent ++ s.scene.coordinator.sends a i pt =
          turn tab (s.scene.ordinal tab i) message text := by
        rw [← ordinal_answered hi, ← hturn]
        exact ((eventsOf_answered hb hi i).trans (by rw [if_pos rfl])).symm
      have hlast := asked_of_last (Scene.requests_get hi) hask fun j r' hj htab =>
        ht.last i j _ r' tab hi hr hwaits hj htab
      rw [h.current i _ tab hi hr hwaits, List.append_assoc, hsent, hlast, conversation_concat, Scene.ordinal,
        Nat.add_comm]
    · next hr =>
      rw [List.append_nil]
      refine h.settled tab fun h' hmem htab => ?_
      obtain ⟨j, hj⟩ := List.mem_iff_getElem?.1 hmem
      have hij : i ≠ j := by
        rintro rfl
        obtain rfl := Option.some.inj (hi.symm.trans hj)
        exact hr htab
      refine hall h' (List.mem_of_getElem? (i := j) ?_) htab
      rw [hscene, List.getElem?_set_ne hij, hj]
  · rw [mail_answered hb hi]
    refine queued_answered hb ht h hi hmild (fun e he tab htab => ?_) tab
    obtain ⟨tab', hr, htab'⟩ := tab_of_sends hb h hi hb' he
    rw [hr, ← htab', htab]

end

include hh ht in
theorem answering_change {m : Move} (hs : Change ids s m s') (hm : ∀ r, m = .begin r → s.Admits r)
    (hb' : Backed shelf visible s') (ht' : Talking s') : Answering s' (s'.mail shelf visible) := by
  cases hs with
  | idle => exact h
  | begin r => exact answering_begin hb hh h (hm r rfl)
  | perform => exact { h with }
  | pause => exact { h with }
  | answer _ i r d call pt a p _ hi ha =>
    exact answering_answer hb ht h hi hb' ht' (effect_of_answerable hb hi ha).mild

end

/-! ## Isolation -/

/-- The prompts of a tab are answered. -/
def Over (s : Ensemble) (tab : String) : Prop :=
  ∀ h ∈ s.scene.handlers, h.request.prompts? = some tab → h.Finished

instance (s : Ensemble) (tab : String) : Decidable (s.Over tab) :=
  inferInstanceAs (Decidable (∀ h ∈ s.scene.handlers, h.request.prompts? = some tab → h.Finished))

/-- What every orderly schedule keeps. -/
structure Kept [Host] (ids : Nat → String) (shelf : Shelf) (visible : Bool) (s : Ensemble) : Prop where
  backed : Backed shelf visible s
  housed : Housed ids s
  talking : Talking s
  answering : Answering s (s.mail shelf visible)

theorem kept_run [Host] {ids : Nat → String} (hids : Function.Injective ids) (shelf : Shelf) (visible : Bool)
    {delay : Delay} (hdelay : ∀ kind, delay ≠ .unusable kind) {moves : List Move}
    (h : (start shelf visible delay).Orderly ids moves) :
    Kept ids shelf visible ((start shelf visible delay).run ids moves) := by
  refine orderly_induction ids (fun hs hm ⟨hb, hh, ht, ha⟩ => ?_) ⟨backed_start shelf visible delay,
    housed_start ids shelf visible delay, talking_start shelf visible hdelay, answering_start shelf visible delay⟩ h
  have hb' := backed_change hb hs hm
  have ht' := talking_change hids hb hh ht hs hm
  exact ⟨hb', housed_change hids hb hh hs hm, ht', answering_change hb hh ht ha hs hm hb' ht'⟩

section

variable [Host] {ids : Nat → String} {shelf : Shelf} {visible : Bool} {s : Ensemble} (h : Kept ids shelf visible s)
include h

/-- What is sent in response to a prompt. -/
theorem Kept.response_begins {i : Nat} {h' : Handler} {tab message text : String} (hi : s.scene.handlers[i]? = some h')
    (hask : h'.request.Asks (.prompt tab message text)) :
    eventsOf i (s.mail shelf visible).sent <+: turn tab (s.scene.ordinal tab i) message text ∧
      (h'.Finished → eventsOf i (s.mail shelf visible).sent = turn tab (s.scene.ordinal tab i) message text) := by
  obtain ⟨m, hm, hask'⟩ := id hask
  obtain ⟨session, -, htold⟩ := h.talking.told i h' tab message text hi hask
  have hsent := sent_of_told htold (h.backed.responding.pace i h' hi m tab message text hm hask')
  exact hsent

/-- What a tab is told. -/
theorem Kept.messages_begin (tab : String) :
    messagesOf tab (s.mail shelf visible).sent <+: conversation tab 1 (asked tab s.scene.requests) := by
  by_cases hover : s.Over tab
  · rw [h.answering.settled tab hover]
  · obtain ⟨h', hmem, htab, hwaits⟩ : ∃ h' ∈ s.scene.handlers, h'.request.prompts? = some tab ∧ ¬ h'.Finished := by
      simpa [Over] using hover
    obtain ⟨i, hi⟩ := List.mem_iff_getElem?.1 hmem
    obtain ⟨message, text, hask⟩ := Request.prompts?_eq_some.1 htab
    have hlast := asked_of_last (Scene.requests_get hi) hask fun j r' hj htab' =>
      h.talking.last i j _ r' tab hi htab hwaits hj htab'
    rw [h.answering.current i h' tab hi htab hwaits, hlast, conversation_concat, Nat.add_comm]
    exact (List.prefix_append_right_inj _).2 (h.response_begins hi hask).1

/-- A response that is told to its end is the turn, and its chunks put together are what the agent says in it. -/
theorem Kept.response {i : Nat} {h' : Handler} {tab message text : String} (hi : s.scene.handlers[i]? = some h')
    (hask : h'.request.Asks (.prompt tab message text)) (hfinished : h'.Finished) :
    eventsOf i (s.mail shelf visible).sent = turn tab (s.scene.ordinal tab i) message text ∧
      String.join ((eventsOf i (s.mail shelf visible).sent).filterMap Outbound.text?) =
        Echo.reply (s.scene.ordinal tab i) text := by
  have hturn := (h.response_begins hi hask).2 hfinished
  rw [hturn]
  exact ⟨rfl, join_turn ..⟩

/-- When no prompt of a tab is being answered, none of its letters is on the direct way. -/
theorem Kept.none_direct {tab : String} (hover : s.Over tab) :
    Outbox.Traffic.ofKind (forTab tab) (Outbox.Traffic.directs (s.mail shelf visible).waiting) = [] := by
  by_contra hdirect
  obtain ⟨l, hl⟩ := List.exists_mem_of_ne_nil _ hdirect
  obtain ⟨hl, hltab⟩ := List.mem_filter.1 hl
  obtain ⟨h', hi, htab, hwaits, -⟩ := waits_of_direct h.backed h.answering hl (of_decide_eq_true hltab)
  exact hwaits (hover h' (List.mem_of_getElem? hi) htab)

theorem Kept.delivered_begins (tab : String) :
    messagesOf tab (s.mail shelf visible).delivered <+: messagesOf tab (s.mail shelf visible).sent :=
  (h.answering.queued tab).delivered_begins.map _

theorem Kept.delivered_all {tab : String} (hover : s.Over tab) (hv : (s.mail shelf visible).outbox.visible = true)
    (hd : (s.mail shelf visible).outbox.draining = false) :
    messagesOf tab (s.mail shelf visible).delivered = messagesOf tab (s.mail shelf visible).sent := by
  rw [messagesOf, (h.answering.queued tab).delivered_all h.backed.responding.served hv hd (h.none_direct hover),
    messagesOf]

end

/-- Whether a request is for a tab. -/
def forTab? (tab : String) (r : Request) : Bool := r.opens? = some tab || r.prompts? = some tab

theorem asked_filter (tab : String) (rs : List Request) : asked tab (rs.filter (forTab? tab)) = asked tab rs := by
  rw [asked, List.filterMap_filter, asked]
  refine List.filterMap_congr fun r _ => ?_
  split
  · rfl
  · next hnot =>
    refine (Request.says?_eq_none.2 fun hr => hnot ?_).symm
    simp [forTab?, hr]

/-- **Tabs are isolated.** Tabs are opened once and prompted one thing after the other; handlers of other tabs, saves,
restores and changes of the visibility come in between as they like. What is sent in response to a prompt is for its tab
and names its message; it begins the turn of the tab that the prompt asks for, and is all of this turn when the handler
is finished, and then its chunks put together are what the agent says in this turn. The messages of a tab are those of
its conversation up to the response that is under way. They are delivered in this order, and all of them when its
prompts are answered and the surface is visible with no replay running. They are the same in every schedule in which
only the requests for this tab come, whatever its timing, its ids and its pauses. -/
theorem tabs_isolated [Host] {ids : Nat → String} (hids : Function.Injective ids) (shelf : Shelf) (visible : Bool)
    {delay : Delay} (hdelay : ∀ kind, delay ≠ .unusable kind) {moves : List Move}
    (horderly : (start shelf visible delay).Orderly ids moves) (tab : String) :
    let s := (start shelf visible delay).run ids moves
    let mail := s.mail shelf visible
    s.scene = (Scene.start shelf visible).run s.past ∧
    (∀ i h message text, s.scene.handlers[i]? = some h → h.request.Asks (.prompt tab message text) →
      (∀ e ∈ eventsOf i mail.sent, e.tab? = some tab ∧ e.message? = some message) ∧
      eventsOf i mail.sent <+: turn tab (s.scene.ordinal tab i) message text ∧
      (h.Finished → eventsOf i mail.sent = turn tab (s.scene.ordinal tab i) message text ∧
        String.join ((eventsOf i mail.sent).filterMap Outbound.text?) =
          Echo.reply (s.scene.ordinal tab i) text)) ∧
    messagesOf tab mail.sent <+: conversation tab 1 (asked tab (moves.filterMap Move.request?)) ∧
    messagesOf tab mail.delivered <+: messagesOf tab mail.sent ∧
    (s.Over tab → messagesOf tab mail.sent = conversation tab 1 (asked tab (moves.filterMap Move.request?)) ∧
      (mail.outbox.visible = true → mail.outbox.draining = false →
        messagesOf tab mail.delivered = messagesOf tab mail.sent)) ∧
    ∀ (ids' : Nat → String) (shelf' : Shelf) (visible' : Bool) (delay' : Delay) (moves' : List Move),
      Function.Injective ids' → (∀ kind, delay' ≠ .unusable kind) →
      (start shelf' visible' delay').Orderly ids' moves' →
      moves'.filterMap Move.request? = (moves.filterMap Move.request?).filter (forTab? tab) →
      let s' := (start shelf' visible' delay').run ids' moves'
      s'.Over tab →
      messagesOf tab mail.sent <+: messagesOf tab (s'.mail shelf' visible').sent ∧
      (s.Over tab → messagesOf tab mail.sent = messagesOf tab (s'.mail shelf' visible').sent) := by
  have h := kept_run hids shelf visible hdelay horderly
  have hrequests : _ = moves.filterMap Move.request? := requests_run ids (start shelf visible delay) moves
  generalize (start shelf visible delay).run ids moves = s at h hrequests
  rw [← hrequests]
  refine ⟨h.backed.scene, fun i h' message text hi hask => ?_, h.messages_begin tab, h.delivered_begins tab,
    fun hover => ⟨h.answering.settled tab hover, h.delivered_all hover⟩,
    fun ids' shelf' visible' delay' moves' hids' hdelay' horderly' honly hover' => ?_⟩
  · have hbegins := (h.response_begins hi hask).1
    exact ⟨fun e he => mem_turn (hbegins.subset he), hbegins, h.response hi hask⟩
  · have h' := kept_run hids' shelf' visible' hdelay' horderly'
    have hrequests' : _ = moves'.filterMap Move.request? := requests_run ids' (start shelf' visible' delay') moves'
    rw [h'.answering.settled tab hover', hrequests', honly, asked_filter]
    exact ⟨h.messages_begin tab, h.answering.settled tab⟩

/-- Names that are told apart by their lengths. -/
def tally (n : Nat) : String := String.ofList (List.replicate n '|')

theorem tally_injective : Function.Injective tally := fun m n h => by
  simpa [tally] using congrArg (fun s => s.toList.length) h

/-- The store does what a handler waits for and the handler goes on, a number of times. -/
def rounds (i n : Nat) : List Move := (List.replicate n [.perform i, .goOn i]).flatten

theorem filterMap_rounds (i n : Nat) : (rounds i n).filterMap Move.request? = [] := by
  refine List.filterMap_eq_nil_iff.2 fun m hm => ?_
  obtain ⟨ms, hms, hm⟩ := List.mem_flatten.1 hm
  obtain rfl := (List.mem_replicate.1 hms).2
  rcases List.mem_pair.1 hm with rfl | rfl <;> rfl

/-- Two tabs are opened and prompted at once. A restore comes in between, and the surface is hidden and shown again
after the next prompt of the first tab. -/
def crossed : List Move :=
  .begin (.inbound (newTabMessage "a")) :: .begin (.inbound (newTabMessage "b")) :: rounds 1 2 ++ rounds 0 7 ++
  rounds 1 5 ++ .begin (.inbound (promptMessage "a" "m" "hi")) :: .begin (.inbound (promptMessage "b" "n" "yo")) ::
  rounds 2 5 ++ rounds 3 4 ++ .begin (.inbound savedStateMessage) :: rounds 4 3 ++ .begin .hidden :: rounds 3 20 ++
  rounds 2 20 ++ rounds 5 10 ++ .begin (.inbound (promptMessage "a" "m2" "ho")) :: rounds 6 30 ++
  .begin .visible :: rounds 7 30

/-- The first tab is opened and prompted twice. -/
def solo : List Move :=
  .begin (.inbound (newTabMessage "a")) :: rounds 0 5 ++ .begin (.inbound (promptMessage "a" "m" "hi")) ::
  rounds 1 18 ++ .begin (.inbound (promptMessage "a" "m2" "ho")) :: rounds 2 18

theorem requests_crossed : crossed.filterMap Move.request? =
    [.inbound (newTabMessage "a"), .inbound (newTabMessage "b"), .inbound (promptMessage "a" "m" "hi"),
      .inbound (promptMessage "b" "n" "yo"), .inbound savedStateMessage, .hidden,
      .inbound (promptMessage "a" "m2" "ho"), .visible] := by
  simp [crossed, filterMap_rounds, Move.request?]

theorem requests_solo : solo.filterMap Move.request? = (crossed.filterMap Move.request?).filter (forTab? "a") := by
  rw [requests_crossed]
  simp only [solo, List.cons_append, List.filterMap_append, List.filterMap_cons, filterMap_rounds, Move.request?]
  rfl

section

attribute [local instance] Host.sample

/-- What the first tab is told is what it is told when only its requests come, and the second prompt of it is answered
in turn 2. -/
theorem crossed_isolated :
    let s := (start ⟨"chat", 1⟩ true .pause).run tally crossed
    let alone := (start ⟨"chat", 1⟩ true .none).run tally solo
    messagesOf "a" (s.mail ⟨"chat", 1⟩ true).delivered = messagesOf "a" (alone.mail ⟨"chat", 1⟩ true).sent ∧
    String.join ((eventsOf 6 (s.mail ⟨"chat", 1⟩ true).sent).filterMap Outbound.text?) = "[turn 2] You said: ho" := by
  have hdelay (delay : Delay) (h : delay = .pause ∨ delay = .none) : ∀ kind, delay ≠ .unusable kind := by
    rintro kind rfl
    simp at h
  have horderly : (start ⟨"chat", 1⟩ true .pause).Orderly tally crossed := by decide +kernel
  obtain ⟨-, hturns, -, -, hall, hsolo⟩ :=
    tabs_isolated tally_injective ⟨"chat", 1⟩ true (hdelay .pause (.inl rfl)) horderly "a"
  have hover : ((start ⟨"chat", 1⟩ true .pause).run tally crossed).Over "a" := by decide +kernel
  obtain ⟨-, hsame⟩ := hsolo tally ⟨"chat", 1⟩ true .none solo tally_injective (hdelay .none (.inr rfl))
    (by decide +kernel) requests_solo (by decide +kernel)
  refine ⟨((hall hover).2 (by decide +kernel) (by decide +kernel)).trans (hsame hover), ?_⟩
  have hrequest : ((start ⟨"chat", 1⟩ true .pause).run tally crossed).scene.requests[6]? =
      some (.inbound (promptMessage "a" "m2" "ho")) := by
    rw [requests_run, requests_crossed]
    rfl
  rw [Scene.requests, List.getElem?_map, Option.map_eq_some_iff] at hrequest
  obtain ⟨h, hi, hr⟩ := hrequest
  have hjoin := ((hturns 6 h "m2" "ho" hi (hr ▸ ⟨_, rfl, rfl⟩)).2.2
    (hover h (List.mem_of_getElem? hi) (by rw [hr]; rfl))).2
  rw [show ((start ⟨"chat", 1⟩ true .pause).run tally crossed).scene.ordinal "a" 6 = 2 by decide +kernel] at hjoin
  exact hjoin

end

end Ensemble

end Coordinator

end ChatRelay
