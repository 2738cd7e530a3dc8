import ChatRelay.Proofs.Coordinator.Mail

/-!
# Responses reach the surface whole and in order

- `Handler.pieces`, `Handler.terminal?`: what the stream of a prompt has given so far, and the event that ends the
  response when the stream was exhausted or has failed;
- `Stage`: how a handler of a prompt stands, what it knows of the end of its response, and what it has still to send;
- `Scene.Calm`: no delivery and no closing of a stream has failed, and no request was a shutdown;
- `Scene.response_delivered`: in every calm schedule the messages of a response are delivered in order, and all of
  them when its handler is finished and the surface is visible with no replay running.
-/

namespace ChatRelay.Coordinator

open Outbox (Traffic)
open Outbox.Traffic (eventsOf)

/-! ## What a stream gives -/

/-- The piece that an answer of a stream brings. -/
def piece? : Call × Except Fault Answer → Option Json
  | (.pullStream, .ok (.chunk piece)) => some piece
  | _ => none

/-- The event that an answer of a stream ends the response with: the stream is exhausted, or opening or pulling it has
failed. -/
def terminal? (tab message : String) : Call × Except Fault Answer → Option Outbound
  | (.pullStream, .ok (.chunk _)) => none
  | (.pullStream, .ok _) => some (.complete tab message)
  | (.pullStream, .error f) => some (.failed tab message f.text)
  | (.openStream _ _, .error f) => some (.failed tab message f.text)
  | _ => none

/-- The pieces that the stream of a handler has given, in order. -/
def Handler.pieces (h : Handler) : List Json := h.dialogue.filterMap piece?

/-- The event that ends the response of a handler, once its stream has come to its end. -/
def Handler.terminal? (h : Handler) (tab message : String) : Option Outbound :=
  h.dialogue.findSome? (Coordinator.terminal? tab message)

/-- The messages that a response is made of, as far as its stream has come. -/
def Handler.response (h : Handler) (tab message : String) : List Outbound :=
  h.pieces.map (.chunk tab message) ++ (h.terminal? tab message).toList

/-- What an answer adds to a response. -/
def reply (p : Prompt) (x : Call × Except Fault Answer) : List Outbound :=
  ((piece? x).map (.chunk p.tab p.message)).toList ++ (terminal? p.tab p.message x).toList

/-! ## Stages of a response -/

/-- How the handler of a prompt goes on, the event that ends the response if the stream has come to its end, and what
is still to be sent of the messages that the stream has called for. -/
inductive Stage (p : Prompt) : Next Call Point Outcome → Option Outbound → List Outbound → Prop
  | opening (call : Call) : Stage p (.waiting call (.relaying p .opening)) none []
  | pulling (call : Call) (n : Nat) : Stage p (.waiting call (.relaying p (.pulling n))) none []
  | passing (call : Call) (n : Nat) (pt : Outbox.Point Outbound) :
      Stage p (.waiting call (.passing p (.chunk n) pt)) none []
  | exhausted (call : Call) (n : Nat) : Stage p (.waiting call (.relaying p (.closing (.exhausted n))))
      (some (.complete p.tab p.message)) [.complete p.tab p.message]
  | broken (call : Call) (n : Nat) (cause : Fault) :
      Stage p (.waiting call (.relaying p (.closing (.broken (.relay p.tab p.message n cause)))))
        (some (.failed p.tab p.message cause.text)) [.failed p.tab p.message cause.text]
  | completing (call : Call) (n : Nat) (pt : Outbox.Point Outbound) :
      Stage p (.waiting call (.passing p (.completion n) pt)) (some (.complete p.tab p.message)) []
  | reporting (call : Call) (cause : Fault) (n : Nat) (pt : Outbox.Point Outbound) (e : Outbound) :
      Stage p (.waiting call (.reporting p cause n pt)) (some e) []
  | saving (call : Call) (purpose : Purpose) (pt : Save.Point) (e : Outbound) :
      Stage p (.waiting call (.saving purpose pt)) (some e) []
  | finished (r : Except Fault Outcome) (e : Outbound) : Stage p (.finished r) (some e) []

/-- A prompt that is finished has nothing more to send. -/
theorem Stage.of_finished {p : Prompt} {next : Next Call Point Outcome} {te : Option Outbound} {owed : List Outbound}
    (h : Stage p next te owed) {r : Except Fault Outcome} (hr : next = .finished r) :
    ∃ e, te = some e ∧ owed = [] := by
  cases h with
  | finished _ e => exact ⟨e, rfl, rfl⟩
  | _ => cases hr

theorem stage_afterSave (p : Prompt) (c : Coordinator) (purpose : Purpose) (t : Save.Turn) (e : Outbound) :
    Stage p (afterSave c purpose t).next (some e) [] := by
  unfold afterSave
  rcases t.next with (f | saved) | ⟨call, pt⟩
  · exact .finished _ e
  · cases purpose <;> exact .finished _ e
  · exact .saving _ _ _ e

theorem stage_persist (p : Prompt) (c : Coordinator) (purpose : Purpose) (uiState : Option Json) (e : Outbound) :
    Stage p (persist c purpose uiState).next (some e) [] := by
  unfold persist
  split
  · cases purpose <;> exact .finished _ e
  · exact stage_afterSave ..

theorem stage_afterReport (p : Prompt) (c : Coordinator) (cause : Fault) (n : Nat) (t : Outbox.Turn Outbound)
    (e : Outbound) : Stage p (afterReport c p cause n t).next (some e) [] := by
  unfold afterReport
  rcases t.next with (f | _) | ⟨event, pt⟩
  · exact .finished _ e
  · exact stage_persist ..
  · exact .reporting _ _ _ _ e

/-- The handler of a prompt pulls its response, or waits for a chunk to be taken. -/
inductive Speaking (p : Prompt) : Next Call Point Outcome → Prop
  | pulling (call : Call) (n : Nat) : Speaking p (.waiting call (.relaying p (.pulling n)))
  | passing (call : Call) (n : Nat) (pt : Outbox.Point Outbound) :
      Speaking p (.waiting call (.passing p (.chunk n) pt))

theorem Speaking.stage {p : Prompt} {next : Next Call Point Outcome} (h : Speaking p next) : Stage p next none [] := by
  cases h with
  | pulling call n => exact .pulling call n
  | passing call n pt => exact .passing call n pt

/-- A chunk was passed on, or waits for its delivery. -/
theorem speaking_passChunk (p : Prompt) (c : Coordinator) (n : Nat) {t : Outbox.Turn Outbound}
    (ht : ∀ r, t.next = .finished r → r = .ok ()) : Speaking p (afterPass c p (.chunk n) t).next := by
  unfold afterPass
  rcases hn : t.next with r | ⟨event, pt⟩
  · rw [ht r hn]
    exact .pulling _ _
  · exact .passing _ _ _

/-- The completion was passed on, or waits for its delivery. -/
theorem stage_passCompletion (p : Prompt) (c : Coordinator) (n : Nat) {t : Outbox.Turn Outbound}
    (ht : ∀ r, t.next = .finished r → r = .ok ()) :
    Stage p (afterPass c p (.completion n) t).next (some (.complete p.tab p.message)) [] := by
  unfold afterPass
  rcases hn : t.next with r | ⟨event, pt⟩
  · rw [ht r hn]
    exact stage_persist ..
  · exact .completing _ _ _

/-- Whether an answer is not the failure of a delivery or of the closing of a stream. -/
def mild : Call → Except Fault Answer → Bool
  | .deliver _, .error _ => false
  | .closeStream, .error _ => false
  | _, _ => true

/-- The replay or the delivery that went on ends well when the delivery did. -/
theorem resume_finished {ε : Type} {b : Outbox ε} {pt : Outbox.Point ε} {r : Except Fault Unit}
    (h : (b.resume pt (.ok ())).next = .finished r) : r = .ok () := by
  cases pt with
  | direct e => simpa [Outbox.resume, eq_comm] using h
  | replaying e n =>
    rcases Outbox.Traffic.replay_cases b (n + 1) with ⟨-, he⟩ | ⟨e', rest, -, -, he⟩
    · simpa [Outbox.resume, he, Outbox.finish, eq_comm] using h
    · simp [Outbox.resume, he] at h

/-- A mild answer lets a delivery end well. -/
theorem ending_of_mild {e : Outbound} {a : Except Fault Answer} (h : mild (.deliver e) a = true) :
    ending a = .ok () := by
  cases a with
  | ok a => rfl
  | error f => cases h

/-- The events that a handler sends when it goes on. -/
def sends (c : Coordinator) (a : Except Fault Answer) (i : Nat) (pt : Point) : List Outbound :=
  (c.errands i a pt).flatMap (Outbox.Move.sends i)

/-- An event of a response that was delivered calls for no other errand. -/
theorem errands_passing {c : Coordinator} {i : Nat} {a : Except Fault Answer} (ha : ending a = .ok ()) (p : Prompt)
    (handover : Relay.Handover) (pt : Outbox.Point Outbound) :
    c.errands i a (.passing p handover pt) = [.settle i (.ok ())] := by
  simp only [errands, ha]
  rcases hn : (c.outbox.resume pt (.ok ())).next with r | ⟨e, pt'⟩
  · rw [resume_finished hn]
    cases handover <;> rfl
  · rfl

/-- A handler of a prompt goes on: what its stream has called for is sent at once or is due. -/
theorem stage_resume {p : Prompt} {shelf : Shelf} {shut : Bool} {call : Call} {pt : Point} {te : Option Outbound}
    {owed : List Outbound} (h : Stage p (.waiting call pt) te owed) (hask : pt.Asks shelf shut call)
    {a : Except Fault Answer} (hm : mild call a = true) (c : Coordinator) (i : Nat) :
    ∃ owed', Stage p (c.resume a pt).next (te.or (terminal? p.tab p.message (call, a))) owed' ∧
      owed ++ reply p (call, a) = c.sends a i pt ++ owed' ∧ (te ≠ none → reply p (call, a) = []) := by
  cases h with
  | opening =>
    obtain rfl := hask
    cases a with
    | ok a => exact ⟨[], .pulling _ _, rfl, by simp⟩
    | error f =>
      refine ⟨[], stage_afterReport _ _ _ _ _ _, ?_, by simp⟩
      simp [sends, errands, Relay.resume, relayErrands, Outbox.Move.sends, reply, piece?, terminal?, relayCall]
  | pulling _ n =>
    obtain rfl := hask
    rcases a with f | a
    · exact ⟨_, .broken _ _ _, rfl, by simp⟩
    · cases a with
      | chunk piece =>
        refine ⟨[], (speaking_passChunk p c n fun r hr => send_finished hr).stage, ?_, by simp⟩
        simp [sends, errands, Relay.resume, Outbox.Move.sends, reply, piece?, terminal?, relayCall]
      | _ => exact ⟨_, .exhausted _ _, rfl, by simp⟩
  | passing _ n pt =>
    obtain rfl := hask
    have ha := ending_of_mild hm
    refine ⟨[], ?_, ?_, by simp⟩
    · have hs : Stage p (afterPass c p (.chunk n) (c.outbox.resume pt (.ok ()))).next none [] :=
        (speaking_passChunk p c n fun r hr => resume_finished hr).stage
      rw [← ha] at hs
      exact hs
    · simp [sends, errands_passing ha, Outbox.Move.sends, reply, piece?, terminal?]
  | exhausted _ n =>
    obtain rfl := hask
    cases a with
    | error f => cases hm
    | ok a =>
      refine ⟨[], stage_passCompletion p c n fun r hr => send_finished hr, ?_, fun _ => rfl⟩
      simp [sends, errands, Relay.resume, Outbox.Move.sends, reply, piece?, terminal?, relayCall]
  | broken _ n cause =>
    obtain rfl := hask
    cases a with
    | error f => cases hm
    | ok a =>
      refine ⟨[], stage_afterReport _ _ _ _ _ _, ?_, fun _ => rfl⟩
      simp [sends, errands, Relay.resume, relayErrands, Outbox.Move.sends, reply, piece?, terminal?, relayCall]
  | completing _ n pt =>
    obtain rfl := hask
    have ha := ending_of_mild hm
    refine ⟨[], ?_, ?_, fun _ => rfl⟩
    · have hs : Stage p (afterPass c p (.completion n) (c.outbox.resume pt (.ok ()))).next
          (some (.complete p.tab p.message)) [] := stage_passCompletion p c n fun r hr => resume_finished hr
      rw [← ha] at hs
      exact hs
    · simp [sends, errands_passing ha, Outbox.Move.sends, reply, piece?, terminal?]
  | reporting _ cause n pt e =>
    obtain rfl := hask
    exact ⟨[], stage_afterReport _ _ _ _ _ _, rfl, fun _ => rfl⟩
  | saving _ purpose pt e =>
    obtain ⟨rfl, -⟩ := hask
    have hreply : reply p (saveCall shelf pt, a) = [] := by cases pt <;> rfl
    have hsends : c.sends a i (.saving purpose pt) = [] := by
      cases purpose with
      | leaving =>
        cases pt with
        | writing => cases a <;> rfl
        | _ => rfl
      | _ => rfl
    refine ⟨[], stage_afterSave _ _ _ _ _, ?_, fun _ => hreply⟩
    rw [hreply, hsends]

/-! ## The pace of a response -/

theorem response_concat (p : Prompt) (r : Request) (d : List (Call × Except Fault Answer))
    (x : Call × Except Fault Answer) (st st' : Next Call Point Outcome)
    (h : Handler.terminal? ⟨r, d, st⟩ p.tab p.message ≠ none → reply p x = []) :
    Handler.response ⟨r, d ++ [x], st'⟩ p.tab p.message =
      Handler.response ⟨r, d, st⟩ p.tab p.message ++ reply p x := by
  simp only [Handler.response, Handler.pieces, Handler.terminal?, reply, List.filterMap_append, List.findSome?_append,
    List.map_append] at h ⊢
  cases ht : d.findSome? (terminal? p.tab p.message) with
  | none => cases hx : piece? x <;> cases hy : terminal? p.tab p.message x <;> simp [hx, hy]
  | some e =>
    rw [ht] at h
    have hx : piece? x = none := by
      have := h (by simp)
      cases hx : piece? x <;> simp_all
    have hy : terminal? p.tab p.message x = none := by
      have := h (by simp)
      cases hy : terminal? p.tab p.message x <;> simp_all
    simp [hx, hy]

/-- How far a prompt has come: it was turned away, or what was sent and what is due make its response. -/
def Pace (tab message : String) (h : Handler) (sent : List Outbound) : Prop :=
  h.status = .finished (.ok (.missingMapping tab message)) ∧ h.dialogue = [] ∧ sent = [] ∨
  ∃ p owed, p.tab = tab ∧ p.message = message ∧ Stage p h.status (h.terminal? tab message) owed ∧
    sent ++ owed = h.response tab message

theorem pace_begin [Host] {c : Coordinator} (hc : c.closed = false) {m : Json} {tab message text : String}
    (hm : Inbound.ofJson m = .ok (.prompt tab message text)) :
    Pace tab message ⟨.inbound m, [], (c.begin (.inbound m)).next⟩ [] := by
  simp only [begin, beginInbound, hc, hm, beginEvent]
  cases c.tabs.session? tab with
  | none => exact .inl ⟨rfl, rfl, rfl⟩
  | some session => exact .inr ⟨⟨tab, message, session, text⟩, [], rfl, rfl, .opening _, rfl⟩

theorem pace_answer {tab message : String} {r : Request} {d : List (Call × Except Fault Answer)} {call : Call}
    {pt : Point} {sent : List Outbound} (h : Pace tab message ⟨r, d, .waiting call pt⟩ sent) {shelf : Shelf}
    {shut : Bool} (hask : pt.Asks shelf shut call) {a : Except Fault Answer} (hm : mild call a = true) (c : Coordinator)
    (i : Nat) : Pace tab message ⟨r, d ++ [(call, a)], (c.resume a pt).next⟩ (sent ++ c.sends a i pt) := by
  rcases h with ⟨h, -, -⟩ | ⟨p, owed, rfl, rfl, hst, hsent⟩
  · cases h
  · obtain ⟨owed', hst', hsend, hend⟩ := stage_resume hst hask hm c i
    refine .inr ⟨p, owed', rfl, rfl, ?_, ?_⟩
    · rw [show Handler.terminal? ⟨r, d ++ [(call, a)], (c.resume a pt).next⟩ p.tab p.message =
        (Handler.terminal? ⟨r, d, .waiting call pt⟩ p.tab p.message).or (terminal? p.tab p.message (call, a)) by
          simp [Handler.terminal?, List.findSome?_append]]
      exact hst'
    · rw [response_concat p r d (call, a) (.waiting call pt) _ hend, ← hsent, List.append_assoc, List.append_assoc,
        hsend]

/-! ## Calm schedules -/

/-- The request was no shutdown, and no delivery and no closing of a stream has failed on its handler. -/
structure Handler.Calm (h : Handler) : Prop where
  stays : h.request.closes = false
  mild : ∀ x ∈ h.dialogue, mild x.1 x.2 = true

instance (h : Handler) : Decidable h.Calm :=
  decidable_of_iff (h.request.closes = false ∧ ∀ x ∈ h.dialogue, mild x.1 x.2 = true)
    ⟨fun ⟨h₁, h₂⟩ => ⟨h₁, h₂⟩, fun h => ⟨h.stays, h.mild⟩⟩

/-- A calm handler does one thing with the outbox at most, and the outbox takes it well. -/
theorem errands_calm {pt : Point} {shelf : Shelf} {call : Call} (hask : pt.Asks shelf false call)
    {a : Except Fault Answer} (hm : mild call a = true) (c : Coordinator) (i : Nat) :
    c.errands i a pt = [] ∨ (∃ e, c.errands i a pt = [.send i e] ∧ pt.outbox? = none) ∨
      c.errands i a pt = [.settle i (.ok ())] := by
  cases pt with
  | creating => exact .inl rfl
  | restoring => exact .inl rfl
  | announcing => exact .inl rfl
  | relaying p pt =>
    cases h : Relay.resume p pt a with
    | pass e handover => exact .inr (.inl ⟨e, by simp [errands, h], rfl⟩)
    | next next =>
      simp only [errands, h]
      unfold relayErrands
      split
      · exact .inr (.inl ⟨_, rfl, rfl⟩)
      · exact .inl rfl
  | passing p handover pt =>
    obtain rfl := hask
    exact .inr (.inr (errands_passing (ending_of_mild hm) p handover pt))
  | reporting =>
    obtain rfl := hask
    exact .inr (.inr (by simp [errands, ending_of_mild hm]))
  | replaying =>
    obtain rfl := hask
    exact .inr (.inr (by simp [errands, ending_of_mild hm]))
  | saving purpose pt =>
    cases purpose with
    | leaving => exact absurd (hask.2 rfl) (by simp)
    | _ => exact .inl rfl

/-- Handlers send under their own numbers. -/
theorem sends_other {i j : Nat} (hij : i ≠ j) (c : Coordinator) (a : Except Fault Answer) (pt : Point) :
    (c.errands i a pt).flatMap (Outbox.Move.sends j) = [] := by
  have hrelay : ∀ p next, (relayErrands i p next).flatMap (Outbox.Move.sends j) = [] := by
    intro p next
    unfold relayErrands
    split <;> simp [Outbox.Move.sends, hij]
  cases pt with
  | relaying p pt =>
    simp only [errands]
    split
    · simp [Outbox.Move.sends, hij]
    · exact hrelay _ _
  | passing p handover pt =>
    simp only [errands, List.flatMap_cons]
    split
    · simpa [Outbox.Move.sends] using hrelay _ _
    · simp [Outbox.Move.sends]
  | saving purpose pt =>
    cases purpose with
    | leaving =>
      cases pt with
      | writing => cases a <;> rfl
      | _ => rfl
    | _ => rfl
  | _ => rfl

namespace Scene

/-- All handlers are calm. -/
def Calm (s : Scene) : Prop := ∀ h ∈ s.handlers, Handler.Calm h

instance (s : Scene) : Decidable s.Calm := inferInstanceAs (Decidable (∀ h ∈ s.handlers, Handler.Calm h))

/-- What is calm has been calm. -/
theorem calm_before [Host] {s s' : Scene} {m : Move} (hs : Shift s m s') (h : s'.Calm) : s.Calm := by
  cases hs with
  | begin r => exact fun h' hh => h h' (List.mem_append_left _ hh)
  | idle => exact h
  | answer i a r d call pt hi =>
    intro h' hh
    obtain ⟨j, hlt, rfl⟩ := List.getElem_of_mem hh
    by_cases hj : j = i
    · subst hj
      have hget : s.handlers[j] = ⟨r, d, .waiting call pt⟩ :=
        Option.some.inj ((List.getElem?_eq_getElem hlt).symm.trans hi)
      have hc := h _ (List.mem_set hlt _)
      rw [hget]
      exact ⟨hc.stays, fun x hmem => hc.mild x (List.mem_append_left _ hmem)⟩
    · refine h _ (List.mem_iff_getElem?.2 ⟨j, ?_⟩)
      rw [List.getElem?_set_ne (Ne.symm hj), List.getElem?_eq_getElem hlt]

/-- The mail of a calm schedule: every prompt has sent what its stream has called for, except what is due. -/
structure Responding (shelf : Shelf) (s : Scene) (t : Traffic Outbound) : Prop where
  asking : s.Asking shelf
  mirrors : s.Mirrors t
  served : t.Served
  unclosed : s.coordinator.closed = false
  fresh : ∀ i, s.handlers.length ≤ i → eventsOf i t.sent = []
  pace : ∀ i h, s.handlers[i]? = some h → ∀ m tab message text, h.request = .inbound m →
    Inbound.ofJson m = .ok (.prompt tab message text) → Pace tab message h (eventsOf i t.sent)

theorem responding_start (shelf : Shelf) (visible : Bool) : Responding shelf (start shelf visible) (.start visible) :=
  ⟨asking_start shelf visible, mirrors_start shelf visible, Outbox.Traffic.served_start visible, rfl, fun _ _ => rfl,
    by simp [start]⟩

theorem served_step {t : Traffic Outbound} (h : t.Served) {m : Outbox.Move Outbound} (hp : t.Patient m)
    (hm : m.Smooth) : (t.step m).Served := Outbox.Traffic.served_shift (Outbox.Traffic.step_shift t m) hp hm h

section

variable [Host]

theorem responding_begin {shelf : Shelf} {s : Scene} {t : Traffic Outbound} (h : Responding shelf s t) {r : Request}
    (hr : r.closes = false) :
    Responding shelf ⟨(s.coordinator.begin r).coordinator, s.handlers ++ [⟨r, [], (s.coordinator.begin r).next⟩]⟩
      (t.run (s.errands (.begin r))) := by
  have hs : Shift s (.begin r) _ := .begin r
  have hidle : t.Idle s.handlers.length := by
    rw [← Outbox.Traffic.pointOf_eq_none, h.mirrors.points]
    simp [pointOf]
  have hsent : ∀ i, eventsOf i (t.run (s.errands (.begin r))).sent = eventsOf i t.sent := by
    intro i
    rw [Outbox.Traffic.sent_run]
    cases r <;> simp [errands, Outbox.Move.sends]
  refine ⟨asking_shift hs h.asking, mirrors_shift hs h.mirrors, ?_, ?_, ?_, ?_⟩
  · cases r with
    | hidden => exact served_step (m := .hold) h.served trivial trivial
    | visible => exact served_step (m := .release _) h.served hidle trivial
    | inbound => exact h.served
    | shutdown => exact h.served
  · have hc := (proper_begin s.coordinator r).closed
    rw [h.unclosed] at hc
    rwa [hr] at hc
  · intro i hi
    rw [hsent]
    exact h.fresh i (by simp at hi; omega)
  · intro i h' hi m tab message text hreq hm
    rw [hsent]
    rcases Schedule.handler_begin hi with hi | ⟨hge, rfl⟩
    · exact h.pace i h' hi m tab message text hreq hm
    · rw [h.fresh i hge]
      obtain rfl : r = .inbound m := hreq
      exact pace_begin h.unclosed hm

theorem responding_answer {shelf : Shelf} {s : Scene} {t : Traffic Outbound} (h : Responding shelf s t) {i : Nat}
    {r : Request} {d : List (Call × Except Fault Answer)} {call : Call} {pt : Point}
    (hi : s.handlers[i]? = some ⟨r, d, .waiting call pt⟩) {a : Except Fault Answer} (hmild : mild call a = true) :
    Responding shelf ⟨(s.coordinator.resume a pt).coordinator,
      s.handlers.set i ⟨r, d ++ [(call, a)], (s.coordinator.resume a pt).next⟩⟩ (t.run (s.errands (.answer i a))) := by
  have hs : Shift s (.answer i a) _ := .answer i a r d call pt hi
  have hlt : i < s.handlers.length := (List.getElem?_eq_some_iff.1 hi).1
  have hask := h.asking.asks _ (List.mem_of_getElem? hi) call pt rfl
  have herr : s.errands (.answer i a) = s.coordinator.errands i a pt := by simp only [errands, hi]
  have hpt : t.pointOf i = pt.outbox? := by
    rw [h.mirrors.points]
    simp [pointOf, hi, outboxPoint?]
  refine ⟨asking_shift hs h.asking, mirrors_shift hs h.mirrors, ?_, ?_, ?_, ?_⟩
  · rw [herr]
    rw [h.unclosed] at hask
    rcases errands_calm hask hmild s.coordinator i with he | ⟨e, he, hout⟩ | he
    · rw [he]
      exact h.served
    · rw [he]
      exact served_step (m := .send i e) h.served (Outbox.Traffic.pointOf_eq_none.1 (hpt.trans hout)) trivial
    · rw [he]
      exact served_step (m := .settle i _) h.served trivial rfl
  · exact (proper_resume s.coordinator a (h.asking.kept.symm ▸ hask)).closed.trans h.unclosed
  · intro j hj
    rw [Outbox.Traffic.sent_run, herr]
    simp only [List.length_set] at hj
    rw [sends_other (by omega), h.fresh j hj, List.nil_append]
  · intro j h' hj m tab message text hreq hm
    rw [Outbox.Traffic.sent_run, herr]
    rcases Schedule.handler_answer hj with ⟨hij, hj⟩ | ⟨rfl, rfl⟩
    · rw [sends_other (Ne.symm hij), List.append_nil]
      exact h.pace j h' hj m tab message text hreq hm
    · exact pace_answer (h.pace j _ hi m tab message text hreq hm) hask hmild s.coordinator j

theorem responding_shift {shelf : Shelf} {s s' : Scene} {m : Move} (hs : Shift s m s') (hc : s'.Calm)
    {t : Traffic Outbound} (h : Responding shelf s t) : Responding shelf s' (t.run (s.errands m)) := by
  cases hs with
  | begin r => exact responding_begin h (hc _ (List.mem_append_right _ (List.mem_singleton_self _))).stays
  | idle i a hi =>
    rw [errands_idle hi]
    exact h
  | answer i a r d call pt hi =>
    have hlt : i < s.handlers.length := (List.getElem?_eq_some_iff.1 hi).1
    have hcalm := hc _ (List.mem_set hlt _)
    exact responding_answer h hi (hcalm.mild (call, a) (List.mem_append_right _ (List.mem_singleton_self _)))

/-- What is calm in the end was calm from the beginning. -/
theorem calm_of_run (moves : List Move) {s : Scene} (h : (s.run moves).Calm) : s.Calm := by
  induction moves generalizing s with
  | nil => exact h
  | cons m moves ih => exact calm_before (step_shift s m) (ih h)

theorem responding_traffic {shelf : Shelf} (moves : List Move) {s : Scene} (hc : (s.run moves).Calm)
    {t : Traffic Outbound} (h : Responding shelf s t) : Responding shelf (s.run moves) (s.traffic t moves) := by
  induction moves generalizing s t with
  | nil => exact h
  | cons m moves ih => exact ih hc (responding_shift (step_shift s m) (calm_of_run moves hc) h)

/-! ## Delivery -/

/-- **Responses are delivered in order and whole.** The mail of a schedule is what the coordinator does with its outbox,
and what it counts as delivered is what the surface has taken. In a schedule where no shutdown is asked for and no
delivery and no closing of a stream fails, the delivered messages of a prompt begin its response: a chunk for each piece
that its stream has given, and then the completion if the stream was exhausted, or the failure with the text of its
cause if opening or pulling the stream has failed. When the handler is finished and has not turned the prompt away, its
stream has come to its end, and while the surface is visible and no replay is running the whole response is
delivered. -/
theorem response_delivered (shelf : Shelf) (visible : Bool) (moves : List Move) :
    let s := (start shelf visible).run moves
    let t := mail shelf visible moves
    s.Mirrors t ∧ t.delivered.map Outbox.Letter.event = (start shelf visible).deliveries moves ∧
    (s.Calm → ∀ i (h : Handler), s.handlers[i]? = some h →
      ∀ m tab message text, h.request = .inbound m → Inbound.ofJson m = .ok (.prompt tab message text) →
      eventsOf i t.delivered <+: h.pieces.map (.chunk tab message) ++ (h.terminal? tab message).toList ∧
      ∀ r, h.status = .finished r → r ≠ .ok (.missingMapping tab message) →
        ∃ e, h.terminal? tab message = some e ∧
          (s.coordinator.outbox.visible = true → s.coordinator.outbox.draining = false →
            eventsOf i t.delivered = h.pieces.map (.chunk tab message) ++ [e])) := by
  intro s t
  refine ⟨mirrors_mail shelf visible moves, delivered_mail shelf visible moves, ?_⟩
  intro hc i h hi m tab message text hreq hm
  have hres : Responding shelf s t := responding_traffic moves hc (responding_start shelf visible)
  have hpre : eventsOf i t.delivered <+: eventsOf i t.sent := (hres.served.delivered_prefix i).map _
  rcases hres.pace i h hi m tab message text hreq hm with ⟨hst, -, hsent⟩ | ⟨p, owed, rfl, rfl, hst, hsent⟩
  · refine ⟨?_, fun r hr hne => absurd (Next.finished.inj (hst.symm.trans hr)) (Ne.symm hne)⟩
    rw [show eventsOf i t.delivered = [] from List.prefix_nil.1 (hsent ▸ hpre)]
    exact List.nil_prefix
  · refine ⟨hpre.trans ⟨owed, hsent⟩, fun r hr _ => ?_⟩
    obtain ⟨e, he, rfl⟩ := hst.of_finished hr
    refine ⟨e, he, fun hv hd => ?_⟩
    have hidle : t.Idle i := by
      rw [← Outbox.Traffic.pointOf_eq_none, hres.mirrors.points, pointOf, hi, Option.bind_some, hr]
      rfl
    rw [← hres.mirrors.events] at hv hd
    have hall : eventsOf i t.delivered = eventsOf i t.sent :=
      congrArg (List.map Outbox.Letter.event) (hres.served.delivered_all hv hd hidle)
    rw [hall]
    simpa [Handler.response, he] using hsent

end

section

attribute [local instance] Host.sample

/-- A tab is opened on a coordinator and its save fails; then a prompt is answered with two pieces, the second of which
comes while the surface is hidden. -/
def hiddenMidway : List Move :=
  let newTab : Json := .obj [("type", .str "new-tab"), ("tabId", .str "t")]
  let prompt : Json :=
    .obj [("type", .str "prompt"), ("tabId", .str "t"), ("messageId", .str "m"), ("prompt", .str "x")]
  [.begin (.inbound newTab), .answer 0 (.ok (.session "s")), .answer 0 (.error .fileSystem),
    .begin (.inbound prompt), .answer 1 (.ok .done), .answer 1 (.ok (.chunk (.int 1))), .begin .hidden,
    .answer 1 (.ok .done), .answer 1 (.ok (.chunk (.int 2))), .answer 1 (.ok .exhausted), .answer 1 (.ok .done),
    .answer 1 (.error .fileSystem), .begin .visible, .answer 3 (.ok .done), .answer 3 (.ok .done)]

/-- The second piece and the completion are delivered when the surface is shown again. -/
theorem hiddenMidway_delivered :
    eventsOf 1 (mail ⟨"k", 1⟩ true hiddenMidway).delivered =
      [.chunk "t" "m" (.int 1), .chunk "t" "m" (.int 2), .complete "t" "m"] := by
  have hcalm : ((start ⟨"k", 1⟩ true).run hiddenMidway).Calm := by decide +kernel
  obtain ⟨e, he, hall⟩ := ((response_delivered ⟨"k", 1⟩ true hiddenMidway).2.2 hcalm 1 _ rfl _ "t" "m" "x" rfl rfl).2
    (.error .fileSystem) rfl (by simp)
  obtain rfl : .complete "t" "m" = e := Option.some.inj he
  exact hall rfl rfl

end

end Scene

end ChatRelay.Coordinator
