import ChatRelay.Proofs.Coordinator.Housing

/-!
# The turns of a session are those of its tab

- `asked`: what a tab was asked, one thing after the other, and `Scene.ordinal`, which of it a handler answers;
- `Told`: how far the agent has come with what it says in response to a prompt;
- `Ensemble.Talking`: in an orderly schedule a session has a turn for every response of its tab that is told to the end,
  and what the agent says in response to a prompt counts the prompts of its tab (`Ensemble.talking_change`).
-/

namespace ChatRelay.Coordinator

/-! ## What a tab was asked -/

/-- The message and the text with which a request prompts a tab. -/
def Request.says? (tab : String) (r : Request) : Option (String × String) :=
  match r.event? with
  | some (.prompt tab' message text) => if tab' = tab then some (message, text) else none
  | _ => none

theorem Request.says?_eq_some {tab message text : String} {r : Request} :
    r.says? tab = some (message, text) ↔ r.Asks (.prompt tab message text) := by
  rw [← Request.event?_eq_some, Request.says?]
  split
  · split <;> simp_all
  · next hne =>
    simp only [reduceCtorEq, false_iff]
    exact fun h => hne _ _ _ h

theorem Request.says?_eq_none {tab : String} {r : Request} : r.says? tab = none ↔ r.prompts? ≠ some tab := by
  rw [Request.says?, Request.prompts?]
  rcases r.event? with _ | e
  · simp
  · cases e <;> simp

/-- What a tab was asked, one thing after the other. -/
def asked (tab : String) (rs : List Request) : List (String × String) := rs.filterMap (Request.says? tab)

theorem asked_append (tab : String) (rs rs' : List Request) : asked tab (rs ++ rs') = asked tab rs ++ asked tab rs' :=
  List.filterMap_append

theorem asked_eq_nil {tab : String} {rs : List Request} (h : ∀ r ∈ rs, r.prompts? ≠ some tab) : asked tab rs = [] :=
  List.filterMap_eq_nil_iff.2 fun r hr => Request.says?_eq_none.2 (h r hr)

theorem asked_singleton {tab message text : String} {r : Request} (h : r.Asks (.prompt tab message text)) :
    asked tab [r] = [(message, text)] := by
  simp [asked, Request.says?_eq_some.2 h]

/-- The last thing that a tab was asked. -/
theorem asked_of_last {tab message text : String} {rs : List Request} {i : Nat} {r : Request} (hi : rs[i]? = some r)
    (hr : r.Asks (.prompt tab message text)) (hlast : ∀ j r', rs[j]? = some r' → r'.prompts? = some tab → j ≤ i) :
    asked tab rs = asked tab (rs.take i) ++ [(message, text)] := by
  obtain ⟨hlt, hget⟩ := List.getElem?_eq_some_iff.1 hi
  have hlater : asked tab (rs.drop (i + 1)) = [] := by
    refine asked_eq_nil fun r' hr' hprompts => ?_
    obtain ⟨j, hj⟩ := List.mem_iff_getElem?.1 hr'
    rw [List.getElem?_drop] at hj
    have := hlast _ r' hj hprompts
    omega
  have hsplit : rs = rs.take i ++ [r] ++ rs.drop (i + 1) := by
    rw [List.append_assoc, List.singleton_append, ← hget, ← List.drop_eq_getElem_cons hlt, List.take_append_drop]
  calc asked tab rs = asked tab (rs.take i ++ [r] ++ rs.drop (i + 1)) := by rw [← hsplit]
    _ = asked tab (rs.take i) ++ [(message, text)] := by
      rw [asked_append, asked_append, asked_singleton hr, hlater, List.append_nil]

/-- The prompts of a tab up to a handler, its own included. -/
def Scene.ordinal (s : Scene) (tab : String) (i : Nat) : Nat := (asked tab (s.requests.take i)).length + 1

/-! ## How far a response is told -/

theorem Handler.pieces_concat (r : Request) (d : List (Call × Except Fault Answer)) (x : Call × Except Fault Answer)
    (st st' : Next Call Point Outcome) :
    Handler.pieces ⟨r, d ++ [x], st'⟩ = Handler.pieces ⟨r, d, st⟩ ++ (piece? x).toList := by
  cases h : piece? x <;> simp [Handler.pieces, h]

theorem Handler.terminal?_concat (tab message : String) (r : Request) (d : List (Call × Except Fault Answer))
    (x : Call × Except Fault Answer) (st st' : Next Call Point Outcome) :
    Handler.terminal? ⟨r, d ++ [x], st'⟩ tab message =
      (Handler.terminal? ⟨r, d, st⟩ tab message).or (Coordinator.terminal? tab message x) := by
  simp [Handler.terminal?, List.findSome?_append]

/-- An answer that brings nothing to tell. -/
structure Quiet (tab message : String) (x : Call × Except Fault Answer) : Prop where
  piece : piece? x = none
  terminal : Coordinator.terminal? tab message x = none

theorem Quiet.pieces {tab message : String} {x : Call × Except Fault Answer} (h : Quiet tab message x) (r : Request)
    (d : List (Call × Except Fault Answer)) (st st' : Next Call Point Outcome) :
    Handler.pieces ⟨r, d ++ [x], st'⟩ = Handler.pieces ⟨r, d, st⟩ := by
  rw [Handler.pieces_concat r d x st, h.piece, Option.toList_none, List.append_nil]

theorem Quiet.terminal? {tab message : String} {x : Call × Except Fault Answer} (h : Quiet tab message x) (r : Request)
    (d : List (Call × Except Fault Answer)) (st st' : Next Call Point Outcome) :
    Handler.terminal? ⟨r, d ++ [x], st'⟩ tab message = Handler.terminal? ⟨r, d, st⟩ tab message := by
  rw [Handler.terminal?_concat tab message r d x st, h.terminal, Option.or_none]

/-- How far the agent has come with what it says in response to a prompt. -/
inductive Told (e : Echo) (p : Prompt) (said : String) (stream : Echo.Stream) (h : Handler) : Prop
  /-- The response was not asked for yet. -/
  | opening (call : Call) : h.status = .waiting call (.relaying p .opening) → h.dialogue = [] → Told e p said stream h
  /-- Some chunks are told. -/
  | midway (told : List String) : Speaking p h.status → e.Midway p.session p.text said stream told →
      h.pieces = told.map .str → h.terminal? p.tab p.message = none → Told e p said stream h
  /-- All is told. -/
  | whole : h.pieces = (Echo.chunks said).map .str → h.terminal? p.tab p.message = some (.complete p.tab p.message) →
      Told e p said stream h

section

variable {e e' : Echo} {p : Prompt} {said : String} {stream : Echo.Stream} {h : Handler}

/-- Nothing but its session matters to a response, and not even that when all is told. -/
theorem Told.congr (ht : Told e p said stream h)
    (hsame : h.terminal? p.tab p.message = none →
      Assoc.get? p.session e'.sessions = Assoc.get? p.session e.sessions) : Told e' p said stream h := by
  cases ht with
  | opening call hstatus hnone => exact .opening call hstatus hnone
  | midway told hspeaking hmidway hpieces hnone =>
    exact .midway told hspeaking (hmidway.congr (hsame hnone)) hpieces hnone
  | whole hpieces hend => exact .whole hpieces hend

/-- A handler that is finished has told all. -/
theorem Told.finished (ht : Told e p said stream h) (hf : h.Finished) :
    h.pieces = (Echo.chunks said).map .str ∧ h.terminal? p.tab p.message = some (.complete p.tab p.message) := by
  obtain ⟨result, hresult⟩ := hf
  cases ht with
  | opening call hstatus => cases hresult.symm.trans hstatus
  | midway told hspeaking =>
    rw [hresult] at hspeaking
    cases hspeaking
  | whole hpieces hend => exact ⟨hpieces, hend⟩

end

namespace Ensemble

section

variable [Host] {ids : Nat → String} {shelf : Shelf} {visible : Bool} {s s' : Ensemble} (hb : Backed shelf visible s)
  {i : Nat} {r : Request} {d : List (Call × Except Fault Answer)} {call : Call} {pt : Point}
  (hi : s.scene.handlers[i]? = some ⟨r, d, .waiting call pt⟩) {a : Except Fault Answer} {p : Play}

include hb hi in
/-- As long as a response is pulled its end is not known. -/
theorem terminal?_pulling {q : Prompt} {n : Nat} (hpt : pt = .relaying q (.pulling n)) {tab message text : String}
    (hr : r.Asks (.prompt tab message text)) : Handler.terminal? ⟨r, d, .waiting call pt⟩ tab message = none := by
  obtain ⟨m, rfl, hm⟩ := hr
  subst hpt
  rcases hb.responding.pace i _ hi m tab message text rfl hm with ⟨hfinished, -⟩ | ⟨p, owed, rfl, rfl, hstage, -⟩
  · cases hfinished
  · generalize Handler.terminal? ⟨.inbound m, d, .waiting call (.relaying q (.pulling n))⟩ p.tab p.message = te
      at hstage
    cases hstage
    rfl

/-- What is told in response to a prompt after an answer: the agent goes on with what it says, or has said all and
records the turn. -/
inductive Goes (e : Echo) (p : Prompt) (birth : Nat) (said : String) (stream : Echo.Stream) (old new : Handler) :
    Echo → Prop
  | on : Told e p said stream new → new.terminal? p.tab p.message = old.terminal? p.tab p.message →
      Goes e p birth said stream old new e
  | ended : Told (e.record p.session birth p.text said) p said stream new → old.terminal? p.tab p.message = none →
      new.terminal? p.tab p.message ≠ none → Goes e p birth said stream old new (e.record p.session birth p.text said)

omit [Host] in
/-- What a pull brings of a response is told: a chunk more of it, or its end. -/
theorem goes_pulled (c : Coordinator) {q : Prompt} {n birth : Nat} {turns : List Json} {said : String} {e e' : Echo}
    {stream stream' : Echo.Stream} {pull : Echo.Pull} {told : List String} (hdelay : ∀ kind, e.delay ≠ .unusable kind)
    (hsession : Assoc.get? q.session e.sessions = some ⟨birth, turns⟩)
    (hsaid : said = Echo.reply (turns.length + 1) q.text)
    (hold : Handler.terminal? ⟨r, d, .waiting .pullStream (.relaying q (.pulling n))⟩ q.tab q.message = none)
    (htold : Handler.pieces ⟨r, d, .waiting .pullStream (.relaying q (.pulling n))⟩ = told.map .str)
    (hmidway : e.Midway q.session q.text said stream told) (hpull : e.pull stream = (e', stream', pull))
    (hpause : pull ≠ .pause) :
    Goes e q birth said stream' ⟨r, d, .waiting .pullStream (.relaying q (.pulling n))⟩
      ⟨r, d ++ [(.pullStream, pulled pull)], (c.resume (pulled pull) (.relaying q (.pulling n))).next⟩ e' := by
  have hend := Handler.terminal?_concat q.tab q.message r d (.pullStream, pulled pull)
    (.waiting .pullStream (.relaying q (.pulling n))) (c.resume (pulled pull) (.relaying q (.pulling n))).next
  have hpieces := Handler.pieces_concat r d (.pullStream, pulled pull)
    (.waiting .pullStream (.relaying q (.pulling n))) (c.resume (pulled pull) (.relaying q (.pulling n))).next
  rw [hold] at hend
  rw [htold] at hpieces
  have hgives := hmidway.pull hdelay hsession hsaid
  rw [hpull] at hgives
  cases hgives with
  | pause => exact absurd rfl hpause
  | @chunk _ piece hnext =>
    refine .on (.midway (told ++ [piece]) ?_ ?_ ?_ hend) (hend.trans hold.symm)
    · exact speaking_passChunk _ _ n fun result hresult => send_finished hresult
    · exact hnext
    · rw [hpieces]
      simp [piece?, pulled]
  | ended hall =>
    refine .ended (.whole ?_ hend) hold (by rw [hend]; simp [Coordinator.terminal?, pulled])
    rw [hpieces, hall]
    simp [piece?, pulled]

include hb hi in
/-- What an answer to the handler of a prompt does to what is told. -/
theorem goes_answer {q : Prompt} (hr : r.AsksPrompt q) {birth : Nat} {turns : List Json} {said : String}
    (hdelay : ∀ kind, s.echo.delay ≠ .unusable kind)
    (hsession : Assoc.get? q.session s.echo.sessions = some ⟨birth, turns⟩)
    (hsaid : Handler.terminal? ⟨r, d, .waiting call pt⟩ q.tab q.message = none →
      said = Echo.reply (turns.length + 1) q.text)
    (ht : Told s.echo q said (s.streams i) ⟨r, d, .waiting call pt⟩) (he : Effect ids s i call pt a p) :
    Goes s.echo q birth said (p.streams i) ⟨r, d, .waiting call pt⟩
      ⟨r, d ++ [(call, a)], (s.scene.coordinator.resume a pt).next⟩ p.echo := by
  -- a response that is told stays told when there is nothing more to tell
  have hwhole (hquiet : Quiet q.tab q.message (call, a))
      (hpieces : Handler.pieces ⟨r, d, .waiting call pt⟩ = (Echo.chunks said).map .str)
      (hend : Handler.terminal? ⟨r, d, .waiting call pt⟩ q.tab q.message = some (.complete q.tab q.message)) :
      Goes s.echo q birth said (p.streams i) ⟨r, d, .waiting call pt⟩
        ⟨r, d ++ [(call, a)], (s.scene.coordinator.resume a pt).next⟩ s.echo :=
    .on (.whole ((hquiet.pieces r d _ _).trans hpieces) ((hquiet.terminal? r d _ _).trans hend))
      (hquiet.terminal? r d _ _)
  have hserves := hb.serving _ (List.mem_of_getElem? hi) call pt rfl
  cases he with
  | created tab' => cases hr.unique hserves
  | opened q' =>
    cases ht with
    | opening call' hstatus hnone =>
      obtain ⟨-, rfl⟩ : _ ∧ q' = q := by simpa using hstatus
      obtain rfl : d = [] := hnone
      refine .on (.midway [] (.pulling _ 0) ?_ rfl rfl) rfl
      simp only [Function.update_self]
      exact .fresh
    | midway told hspeaking => cases hspeaking
    | whole hpieces hend => exact hwhole ⟨rfl, rfl⟩ hpieces hend
  | pulled q' n echo stream pull hpull hpause =>
    have hold := terminal?_pulling hb hi rfl hr
    cases ht with
    | opening call' hstatus => cases hstatus
    | whole hpieces hend => cases hold.symm.trans hend
    | midway told hspeaking hmidway htold hnone =>
      obtain rfl : q' = q := by
        cases hspeaking
        rfl
      simp only [Function.update_self]
      exact goes_pulled s.scene.coordinator hdelay hsession (hsaid hold) hold htold hmidway hpull hpause
  | closed q' ending =>
    cases ht with
    | opening call' hstatus => cases hstatus
    | midway told hspeaking => cases hspeaking
    | whole hpieces hend => exact hwhole ⟨rfl, rfl⟩ hpieces hend
  | still _ _ _ hrelaying _ hmild hpiece hterminal =>
    have hquiet : Quiet q.tab q.message (call, a) := ⟨hpiece, hterminal q.tab q.message⟩
    cases ht with
    | opening call' hstatus =>
      cases hstatus
      exact absurd rfl (hrelaying q .opening)
    | whole hpieces hend => exact hwhole hquiet hpieces hend
    | midway told hspeaking hmidway htold hnone =>
      refine .on (.midway told ?_ hmidway ((hquiet.pieces r d _ _).trans htold)
        ((hquiet.terminal? r d _ _).trans hnone)) (hquiet.terminal? r d _ _)
      cases hspeaking with
      | pulling _ n => exact absurd rfl (hrelaying q (.pulling n))
      | passing _ n pt =>
        obtain rfl := hb.asking.asks _ (List.mem_of_getElem? hi) call _ rfl
        have hok := ending_of_mild hmild
        have hspeaking : Speaking q (afterPass s.scene.coordinator q (.chunk n)
            (s.scene.coordinator.outbox.resume pt (.ok ()))).next :=
          speaking_passChunk q _ n fun result hresult => resume_finished hresult
        rw [← hok] at hspeaking
        exact hspeaking

end

/-! ## Turns and prompts -/

end Ensemble

/-- A number of turns that is right for a tab: it counts the prompts before the one that is being answered, and all of
them when none is. -/
structure Scene.Counts (s : Scene) (tab : String) (n : Nat) : Prop where
  current : ∀ (i : Nat) (h : Handler) (message text : String), s.handlers[i]? = some h →
    h.request.Asks (.prompt tab message text) → h.terminal? tab message = none → n + 1 = s.ordinal tab i
  settled : (∀ h ∈ s.handlers, ∀ message text, h.request.Asks (.prompt tab message text) →
    Handler.terminal? h tab message ≠ none) → n = (asked tab s.requests).length

namespace Ensemble

/-- The agent goes on with what it says in the last prompt of a tab, and has told all in the others. A session has the
turns of its tab. -/
structure Talking (s : Ensemble) : Prop where
  delay : ∀ kind, s.echo.delay ≠ .unusable kind
  told : ∀ (i : Nat) (h : Handler) (tab message text : String), s.scene.handlers[i]? = some h →
    h.request.Asks (.prompt tab message text) → ∃ session, s.tabs.session? tab = some session ∧
      Told s.echo ⟨tab, message, session, text⟩ (Echo.reply (s.scene.ordinal tab i) text) (s.streams i) h
  last : ∀ (i j : Nat) (h : Handler) (r : Request) (tab : String), s.scene.handlers[i]? = some h →
    h.request.prompts? = some tab → ¬ h.Finished → s.scene.requests[j]? = some r → r.prompts? = some tab → j ≤ i
  turns : ∀ tab session, s.tabs.session? tab = some session → ∃ birth turns,
    Assoc.get? session s.echo.sessions = some ⟨birth, turns⟩ ∧ s.scene.Counts tab turns.length

theorem talking_start (shelf : Shelf) (visible : Bool) {delay : Delay} (h : ∀ kind, delay ≠ .unusable kind) :
    Talking (start shelf visible delay) where
  delay := h
  told := fun _ _ _ _ _ hi => nomatch hi
  last := fun _ _ _ _ _ hi => nomatch hi
  turns := fun _ _ hs => nomatch hs

section

variable [Host] {ids : Nat → String} (hids : Function.Injective ids) {shelf : Shelf} {visible : Bool} {s s' : Ensemble}
  (hb : Backed shelf visible s) (hh : Housed ids s) (h : Talking s)

include h

omit [Host] in
/-- A handler that has not told all is not finished. -/
theorem Talking.unfinished {i : Nat} {h' : Handler} {tab message text : String} (hi : s.scene.handlers[i]? = some h')
    (hr : h'.request.Asks (.prompt tab message text)) (hnone : h'.terminal? tab message = none) : ¬ h'.Finished := by
  intro hfinished
  obtain ⟨session, -, ht⟩ := h.told i h' tab message text hi hr
  cases hnone.symm.trans (ht.finished hfinished).2

omit [Host] in
/-- One prompt of a tab is answered at a time. -/
theorem Talking.one {i j : Nat} {h₁ h₂ : Handler} {tab : String} (hi : s.scene.handlers[i]? = some h₁)
    (hj : s.scene.handlers[j]? = some h₂) (h₁tab : h₁.request.prompts? = some tab)
    (h₂tab : h₂.request.prompts? = some tab) (h₁waits : ¬ h₁.Finished) (h₂waits : ¬ h₂.Finished) : i = j :=
  Nat.le_antisymm (h.last j i h₂ _ tab hj h₂tab h₂waits (Scene.requests_get hi) h₁tab)
    (h.last i j h₁ _ tab hi h₁tab h₁waits (Scene.requests_get hj) h₂tab)

/-! ### Requests -/

omit h in
theorem ordinal_begun (r : Request) (tab : String) {i : Nat} (hi : i ≤ s.scene.handlers.length) :
    (s.begun r).scene.ordinal tab i = s.scene.ordinal tab i := by
  rw [Scene.ordinal, requests_begun, List.take_append_of_le_length (by simpa [Scene.requests] using hi), Scene.ordinal]

omit h in
include hb in
/-- The handler of a prompt of a bound tab begins with asking for its response. -/
theorem opening_begin {r : Request} {tab message text session : String} (hr : r.Asks (.prompt tab message text))
    (hsession : s.tabs.session? tab = some session) : (s.scene.coordinator.begin r).next =
      .waiting (.openStream session text) (.relaying ⟨tab, message, session, text⟩ .opening) := by
  obtain ⟨m, rfl, hm⟩ := hr
  simp only [begin, beginInbound, hb.unclosed, hm, beginEvent, hsession]
  rfl

/-- A prompt comes when all before it in its tab is told. -/
theorem counts_begun {r : Request} (hr : s.Admits r) {tab : String} {n : Nat} (hn : s.scene.Counts tab n) :
    (s.begun r).scene.Counts tab n := by
  have hold {i : Nat} {h' : Handler} (hi : s.scene.handlers[i]? = some h') :
      (s.begun r).scene.ordinal tab i = s.scene.ordinal tab i :=
    ordinal_begun r tab (Nat.le_of_lt (List.getElem?_eq_some_iff.1 hi).1)
  by_cases hprompt : r.prompts? = some tab
  · have htold : ∀ h' ∈ s.scene.handlers, ∀ message text, h'.request.Asks (.prompt tab message text) →
        Handler.terminal? h' tab message ≠ none := by
      intro h' hmem message text hask hnone
      obtain ⟨j, hj⟩ := List.mem_iff_getElem?.1 hmem
      exact h.unfinished hj hask hnone (hr.settled tab hprompt h' hmem (.inr (Request.prompts?_eq_some.2 ⟨_, _, hask⟩)))
    refine ⟨fun i h' message text hi hask hnone => ?_, fun hall => ?_⟩
    · rcases Schedule.handler_begin hi with hi | ⟨hle, rfl⟩
      · exact absurd hnone (htold h' (List.mem_of_getElem? hi) message text hask)
      · obtain rfl : i = s.scene.handlers.length := by
          have hlt := (List.getElem?_eq_some_iff.1 hi).1
          simp only [scene_begun, List.length_append, List.length_singleton] at hlt
          omega
        rw [ordinal_begun r tab (Nat.le_refl _), Scene.ordinal, hn.settled htold,
          List.take_of_length_le (by simp [Scene.requests])]
    · obtain ⟨message, text, hask⟩ := Request.prompts?_eq_some.1 hprompt
      exact absurd rfl (hall _ (List.mem_append_right _ (List.mem_singleton_self _)) message text hask)
  · have hnot {message text : String} : ¬ r.Asks (.prompt tab message text) := fun hask =>
      hprompt (Request.prompts?_eq_some.2 ⟨message, text, hask⟩)
    refine ⟨fun i h' message text hi hask hnone => ?_, fun hall => ?_⟩
    · rcases Schedule.handler_begin hi with hi | ⟨-, rfl⟩
      · rw [hold hi]
        exact hn.current i h' message text hi hask hnone
      · exact absurd hask hnot
    · have hnone : asked tab [r] = [] := asked_eq_nil (by simpa using hprompt)
      rw [requests_begun, asked_append, hnone, List.append_nil]
      exact hn.settled fun h' hmem => hall h' (List.mem_append_left _ hmem)

include hb hh in
theorem talking_begin {r : Request} (hr : s.Admits r) : Talking (s.begun r) where
  delay := h.delay
  told i h' tab message text hi hask := by
    rw [tabs_begun]
    rcases Schedule.handler_begin hi with hi' | ⟨-, rfl⟩
    · rw [ordinal_begun r tab (Nat.le_of_lt (List.getElem?_eq_some_iff.1 hi').1)]
      exact h.told i h' tab message text hi' hask
    · have hbound := (housed_begin hb hh hr).prompted _ (List.mem_of_getElem? hi) tab
        (Request.prompts?_eq_some.2 ⟨_, _, hask⟩)
      rw [tabs_begun] at hbound
      obtain ⟨session, hsession⟩ := Option.ne_none_iff_exists'.1 hbound
      exact ⟨session, hsession, .opening _ (opening_begin hb hask hsession) rfl⟩
  last i j h' r' tab hi htab hwaits hj htab' := by
    rcases Schedule.handler_begin hi with hi' | ⟨hle, rfl⟩
    · rw [requests_begun] at hj
      rcases Nat.lt_or_ge j s.scene.requests.length with hlt | hge
      · rw [List.getElem?_append_left hlt] at hj
        exact h.last i j h' r' tab hi' htab hwaits hj htab'
      · have hmem := List.mem_of_getElem? ((List.getElem?_append_right hge).symm.trans hj)
        obtain rfl := List.mem_singleton.1 hmem
        exact absurd (hr.settled tab htab' h' (List.mem_of_getElem? hi') (.inr htab)) hwaits
    · have hlt := (List.getElem?_eq_some_iff.1 hj).1
      rw [requests_begun, List.length_append, List.length_singleton, Scene.requests, List.length_map] at hlt
      omega
  turns tab session hsession := by
    rw [tabs_begun] at hsession
    obtain ⟨birth, turns, hget, hn⟩ := h.turns tab session hsession
    exact ⟨birth, turns, hget, counts_begun h hr hn⟩

/-! ### Answers -/

section

variable {i : Nat} {r : Request} {d : List (Call × Except Fault Answer)} {call : Call} {pt : Point}
  (hi : s.scene.handlers[i]? = some ⟨r, d, .waiting call pt⟩) {a : Except Fault Answer} {p : Play}
include hi

omit h in
theorem ordinal_answered (tab : String) (j : Nat) : (s.answered i a p).scene.ordinal tab j = s.scene.ordinal tab j := by
  rw [Scene.ordinal, requests_answered hi, Scene.ordinal]

omit h in
/-- An answer that tells no response to its end. -/
theorem counts_answered {tab : String} {n : Nat} (hn : s.scene.Counts tab n)
    (hsame : ∀ message text, r.Asks (.prompt tab message text) →
      Handler.terminal? ⟨r, d ++ [(call, a)], (s.scene.coordinator.resume a pt).next⟩ tab message =
        Handler.terminal? ⟨r, d, .waiting call pt⟩ tab message) : (s.answered i a p).scene.Counts tab n := by
  have hscene := scene_answered hi a p
  refine ⟨fun j h' message text hj hask hnone => ?_, fun hall => ?_⟩
  · rw [ordinal_answered hi]
    rw [hscene] at hj
    rcases Schedule.handler_answer hj with ⟨-, hj⟩ | ⟨rfl, rfl⟩
    · exact hn.current j h' message text hj hask hnone
    · exact hn.current j _ message text hi hask ((hsame message text hask).symm.trans hnone)
  · rw [requests_answered hi]
    refine hn.settled fun h' hmem message text hask hnone => ?_
    obtain ⟨j, hj⟩ := List.mem_iff_getElem?.1 hmem
    rw [hscene] at hall
    by_cases hij : i = j
    · subst hij
      obtain rfl := Option.some.inj (hi.symm.trans hj)
      exact hall _ (List.mem_set (List.getElem?_eq_some_iff.1 hi).1 _) message text hask
        ((hsame message text hask).trans hnone)
    · exact hall h' (List.mem_of_getElem? ((List.getElem?_set_ne hij).trans hj)) message text hask hnone

/-- A response is told to its end. -/
theorem counts_told {tab message text : String} {n : Nat} (hn : s.scene.Counts tab n)
    (hr : r.Asks (.prompt tab message text)) (hold : Handler.terminal? ⟨r, d, .waiting call pt⟩ tab message = none)
    (hnew : Handler.terminal? ⟨r, d ++ [(call, a)], (s.scene.coordinator.resume a pt).next⟩ tab message ≠ none) :
    (s.answered i a p).scene.Counts tab (n + 1) := by
  have hscene := scene_answered hi a p
  have hrtab := Request.prompts?_eq_some.2 ⟨message, text, hr⟩
  have hwaits : ¬ (⟨r, d, .waiting call pt⟩ : Handler).Finished := Schedule.Handler.unfinished
  refine ⟨fun j h' message' text' hj hask hnone => ?_, fun _ => ?_⟩
  · rw [hscene] at hj
    rcases Schedule.handler_answer hj with ⟨hji, hj⟩ | ⟨-, rfl⟩
    · exact absurd (h.one hj hi (Request.prompts?_eq_some.2 ⟨_, _, hask⟩) hrtab (h.unfinished hj hask hnone) hwaits) hji
    · cases hr.unique hask
      exact absurd hnone hnew
  · have hlast := asked_of_last (Scene.requests_get hi) hr fun j r' hj htab =>
      h.last i j _ r' tab hi hrtab hwaits hj htab
    rw [hn.current i _ message text hi hr hold, requests_answered hi, hlast, List.length_append,
      List.length_singleton, Scene.ordinal]

/-- What is told after an answer, when the sessions of other tabs are as they were. -/
theorem talking_answered
    (htabs : ∀ tab session, s.tabs.session? tab = some session → (s.answered i a p).tabs.session? tab = some session)
    (hdelay : p.echo.delay = s.echo.delay) (hstreams : ∀ j, j ≠ i → p.streams j = s.streams j)
    (hothers : ∀ tab session, s.tabs.session? tab = some session → r.prompts? ≠ some tab →
      Assoc.get? session p.echo.sessions = Assoc.get? session s.echo.sessions)
    (hown : ∀ tab message text session, r.Asks (.prompt tab message text) → s.tabs.session? tab = some session →
      Told p.echo ⟨tab, message, session, text⟩ (Echo.reply (s.scene.ordinal tab i) text) (p.streams i)
        ⟨r, d ++ [(call, a)], (s.scene.coordinator.resume a pt).next⟩)
    (hturns : ∀ tab session, (s.answered i a p).tabs.session? tab = some session → ∃ birth turns,
      Assoc.get? session p.echo.sessions = some ⟨birth, turns⟩ ∧ (s.answered i a p).scene.Counts tab turns.length) :
    Talking (s.answered i a p) := by
  have hscene := scene_answered hi a p
  have hwaits : ¬ (⟨r, d, .waiting call pt⟩ : Handler).Finished := Schedule.Handler.unfinished
  refine ⟨fun kind => hdelay ▸ h.delay kind, fun j h' tab message text hj hask => ?_,
    fun j k h' r' tab hj htab hjwaits hk htab' => ?_, hturns⟩
  · rw [ordinal_answered hi]
    rw [hscene] at hj
    rcases Schedule.handler_answer hj with ⟨hji, hj⟩ | ⟨rfl, rfl⟩
    · obtain ⟨session, hsession, ht⟩ := h.told j h' tab message text hj hask
      refine ⟨session, htabs tab session hsession, ?_⟩
      rw [show (s.answered i a p).streams j = _ from hstreams j hji]
      refine ht.congr fun hnone => hothers tab session hsession fun htab => ?_
      exact hji (h.one hj hi (Request.prompts?_eq_some.2 ⟨_, _, hask⟩) htab (h.unfinished hj hask hnone) hwaits)
    · obtain ⟨session, hsession, -⟩ := h.told j _ tab message text hi hask
      exact ⟨session, htabs tab session hsession, hown tab message text session hask hsession⟩
  · rw [requests_answered hi] at hk
    rw [hscene] at hj
    rcases Schedule.handler_answer hj with ⟨-, hj⟩ | ⟨rfl, rfl⟩
    · exact h.last j k h' r' tab hj htab hjwaits hk htab'
    · exact h.last j k _ r' tab hi htab hwaits hk htab'

include hb hh in
/-- The handler of a prompt is answered. -/
theorem talking_prompt {tab message text : String} (hr : r.Asks (.prompt tab message text))
    (he : Effect ids s i call pt a p) : Talking (s.answered i a p) := by
  obtain ⟨session, hsession, ht⟩ := h.told i _ tab message text hi hr
  obtain ⟨birth, turns, hget, hn⟩ := h.turns tab session hsession
  have hcreating : ∀ tab', pt ≠ .creating tab' := by
    rintro tab' rfl
    cases hr.unique (hb.serving _ (List.mem_of_getElem? hi) call _ rfl)
  have htabs := tabs_answered hb hi a p hcreating
  have hgoes := goes_answer hb hi (q := ⟨tab, message, session, text⟩) hr h.delay hget
    (fun hnone => by rw [hn.current i _ message text hi hr hnone]) ht he
  have hown {tab' message' text' session' : String} (hask : r.Asks (.prompt tab' message' text'))
      (hsession' : s.tabs.session? tab' = some session') :
      tab = tab' ∧ message = message' ∧ text = text' ∧ session = session' := by
    cases hr.unique hask
    exact ⟨rfl, rfl, rfl, Option.some.inj (hsession.symm.trans hsession')⟩
  generalize hecho : p.echo = echo at hgoes
  cases hgoes with
  | on htold hsame =>
    refine talking_answered h hi (fun _ _ => by rw [htabs]; exact id) (by rw [hecho]) (fun j hj => he.streams hj)
      (fun _ _ _ _ => by rw [hecho]) (fun tab' message' text' session' hask hsession' => ?_)
      fun tab' session' hsession' => ?_
    · obtain ⟨rfl, rfl, rfl, rfl⟩ := hown hask hsession'
      rw [hecho]
      exact htold
    · rw [htabs] at hsession'
      obtain ⟨birth', turns', hget', hn'⟩ := h.turns tab' session' hsession'
      refine ⟨birth', turns', by rw [hecho]; exact hget', counts_answered hi hn' fun message' text' hask => ?_⟩
      obtain ⟨rfl, rfl, -⟩ := hown hask hsession'
      exact hsame
  | ended htold hold hnew =>
    have hother {tab' session' : String} (hsession' : s.tabs.session? tab' = some session') (hne : tab ≠ tab') :
        Assoc.get? session' p.echo.sessions = Assoc.get? session' s.echo.sessions := by
      rw [hecho]
      refine Echo.get?_record_of_ne (fun (he : session = session') => ?_) ..
      exact hne (hh.apart tab tab' session' (he ▸ hsession) hsession')
    refine talking_answered h hi (fun _ _ => by rw [htabs]; exact id) ?_ (fun j hj => he.streams hj)
      (fun tab' session' hsession' hne => hother hsession' ?_) (fun tab' message' text' session' hask hsession' => ?_)
      fun tab' session' hsession' => ?_
    · rw [hecho, Echo.delay_record]
    · rintro rfl
      exact hne (Request.prompts?_eq_some.2 ⟨message, text, hr⟩)
    · obtain ⟨rfl, rfl, rfl, rfl⟩ := hown hask hsession'
      rw [hecho]
      exact htold
    · rw [htabs] at hsession'
      by_cases heq : tab = tab'
      · subst heq
        obtain rfl := Option.some.inj (hsession.symm.trans hsession')
        refine ⟨birth, _, by rw [hecho]; exact Echo.get?_record_self hget .., ?_⟩
        rw [List.length_append, List.length_singleton]
        exact counts_told h hi hn hr hold hnew
      · obtain ⟨birth', turns', hget', hn'⟩ := h.turns tab' session' hsession'
        refine ⟨birth', turns', (hother hsession' heq).trans hget', counts_answered hi hn' fun _ _ hask => ?_⟩
        exact absurd (hown hask hsession').1 heq

include hb in
/-- A handler is answered that neither answers a prompt nor opens a tab. -/
theorem talking_still (hr : ∀ tab, r.prompts? ≠ some tab) (hcreating : ∀ tab, pt ≠ .creating tab) :
    Talking (s.answered i a s.toPlay) := by
  have htabs := tabs_answered hb hi a s.toPlay hcreating
  have hask {tab message text : String} : ¬ r.Asks (.prompt tab message text) := fun hask =>
    hr tab (Request.prompts?_eq_some.2 ⟨message, text, hask⟩)
  refine talking_answered h hi (fun _ _ => by rw [htabs]; exact id) rfl (fun _ _ => rfl) (fun _ _ _ _ => rfl)
    (fun _ _ _ _ h' => absurd h' hask) fun tab session hsession => ?_
  rw [htabs] at hsession
  obtain ⟨birth, turns, hget, hn⟩ := h.turns tab session hsession
  exact ⟨birth, turns, hget, counts_answered hi hn fun _ _ h' => absurd h' hask⟩

end

include hids hb hh in
/-- A new tab has a session without turns. -/
theorem talking_created {i : Nat} {r : Request} {d : List (Call × Except Fault Answer)} {call : Call} {tab : String}
    (hi : s.scene.handlers[i]? = some ⟨r, d, .waiting call (.creating tab)⟩) :
    Talking (s.answered i (.ok (.session (ids s.issued)))
      { s.toPlay with echo := (s.echo.create (ids s.issued)).1, issued := s.issued + 1 }) := by
  have hmem := List.mem_of_getElem? hi
  have hr : r.Asks (.newTab tab) := hb.serving _ hmem call _ rfl
  have htabs := tabs_created hb hi (ids s.issued)
    { s.toPlay with echo := (s.echo.create (ids s.issued)).1, issued := s.issued + 1 }
  have hunbound : ¬ Bound s.tabs tab := (hh.opening _ hmem tab (Request.opens?_eq_some.2 hr)).1 ⟨call, rfl⟩
  have hask {tab' message text : String} : ¬ r.Asks (.prompt tab' message text) := fun hask => nomatch hr.unique hask
  have hother {tab' session : String} (hsession : s.tabs.session? tab' = some session) :
      Assoc.get? session (s.echo.create (ids s.issued)).1.sessions = Assoc.get? session s.echo.sessions :=
    Echo.get?_begin_of_ne fun he => hh.fresh hids tab' (he ▸ hsession)
  refine talking_answered h hi (fun tab' session hsession => ?_) rfl (fun _ _ => rfl)
    (fun _ _ hsession _ => hother hsession) (fun _ _ _ _ h' => absurd h' hask) fun tab' session hsession => ?_
  · rw [htabs, Scene.session?_bind, if_neg, hsession]
    rintro rfl
    exact hunbound (by rw [Bound, hsession]; simp)
  · rw [htabs, Scene.session?_bind] at hsession
    split at hsession
    · next heq =>
      subst heq
      obtain rfl := Option.some.inj hsession
      refine ⟨s.echo.births, [], Assoc.get?_put_self .., fun j h' message text hj hask' _ => ?_, fun _ => ?_⟩
      · obtain ⟨h₀, hj₀, hrequest⟩ := handler_before hi hj
        exact absurd (hh.prompted h₀ (List.mem_of_getElem? hj₀) tab
          (hrequest ▸ Request.prompts?_eq_some.2 ⟨message, text, hask'⟩)) hunbound
      · rw [requests_answered hi, asked_eq_nil]
        · rfl
        · intro r' hr' htab
          obtain ⟨h', hmem', rfl⟩ := List.mem_map.1 hr'
          exact hunbound (hh.prompted h' hmem' tab htab)
    · obtain ⟨birth, turns, hget, hn⟩ := h.turns tab' session hsession
      exact ⟨birth, turns, (hother hsession).trans hget, counts_answered hi hn fun _ _ h' => absurd h' hask⟩

/-! ### Pauses -/

omit [Host] in
/-- In the pause before a chunk nothing is told. -/
theorem talking_pause {i : Nat} {stream : Echo.Stream} (hpause : s.echo.pull (s.streams i) = (s.echo, stream, .pause)) :
    Talking { s with streams := Function.update s.streams i stream } := by
  refine { h with told := fun j h' tab message text hj hask => ?_ }
  obtain ⟨session, hsession, ht⟩ := h.told j h' tab message text hj hask
  refine ⟨session, hsession, ?_⟩
  by_cases hji : j = i
  · subst hji
    simp only [Function.update_self]
    cases ht with
    | opening call hstatus hnone => exact .opening call hstatus hnone
    | whole hpieces hend => exact .whole hpieces hend
    | midway told hspeaking hmidway htold hnone =>
      obtain ⟨birth, turns, hget, hn⟩ := h.turns tab session hsession
      have hgives := hmidway.pull h.delay hget (by rw [hn.current j h' message text hj hask hnone])
      rw [hpause] at hgives
      exact .midway told hspeaking hgives.of_pause htold hnone
  · simp only [Function.update_of_ne hji]
    exact ht

include hids hb hh in
theorem talking_change {m : Move} (hs : Change ids s m s') (hm : ∀ r, m = .begin r → s.Admits r) : Talking s' := by
  cases hs with
  | idle => exact h
  | begin r => exact talking_begin hb hh h (hm r rfl)
  | perform => exact { h with }
  | pause i stream hpause => exact talking_pause h hpause
  | answer _ i r d call pt a p _ hi ha =>
    have he := effect_of_answerable hb hi ha
    have hserves := hb.serving _ (List.mem_of_getElem? hi) call pt rfl
    cases he with
    | created tab => exact talking_created hids hb hh h hi
    | opened q => exact talking_prompt hb hh h hi hserves (.opened q)
    | pulled q n echo stream pull hpull hpause =>
      exact talking_prompt hb hh h hi hserves (.pulled q n echo stream pull hpull hpause)
    | closed q ending => exact talking_prompt hb hh h hi hserves (.closed q ending)
    | still _ _ _ hrelaying hcreating hmild hpiece hterminal =>
      by_cases hprompt : ∃ tab, r.prompts? = some tab
      · obtain ⟨tab, htab⟩ := hprompt
        obtain ⟨message, text, hr⟩ := Request.prompts?_eq_some.1 htab
        exact talking_prompt hb hh h hi hr (.still _ _ _ hrelaying hcreating hmild hpiece hterminal)
      · exact talking_still hb h hi (fun tab htab => hprompt ⟨tab, htab⟩) hcreating

end

end Ensemble

end ChatRelay.Coordinator
