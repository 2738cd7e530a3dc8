import ChatRelay.Proofs.Agent.Echo
import Mathlib.Data.List.DropRight

/-!
# The turns of a session while responses run

Responses of one session may run at the same time, and the session may be rebuilt while they do. A response holds on
to its session, but its turn is recorded only when it is pulled to its end.

- `Echo.Talk`, `Echo.Move`: an agent with the responses that were opened, and what can happen to them;
- `Echo.Reaches`: the moments of a talk, with the deeds that leave a trace in the turns of a session;
- `Echo.listed`, `Echo.since`, `Echo.turn?`: the turns that a session was rebuilt with last, the deeds since then, and
  the turn that a deed adds;
- `Echo.turns_told`: these are the turns of every session at every moment.
-/

namespace ChatRelay.Echo

/-! ## Talks -/

/-- The turns of a session, none when the agent does not know it. -/
def held (e : Echo) (session : String) : List Json :=
  match e.history session with
  | .ok turns => turns
  | .error _ => []

/-- A response that was opened. -/
structure Speech where
  session : String
  text : String
  /-- How many turns the session had when the response was pulled first. -/
  turns : Nat
  stream : Stream

/-- An agent with the responses that were opened, in their order. -/
structure Talk where
  agent : Echo
  speeches : List Speech

/-- What can happen. -/
inductive Move
  | create (session : String)
  | resume (session : String) (state : Json)
  | prompt (session text : String)
  /-- The next chunk of a response is asked for. -/
  | pull (speech : Nat)
  /-- The pause before a chunk is over. -/
  | wake (speech : Nat)
  /-- A response is no longer needed. -/
  | close (speech : Nat)

/-- Whether a response rests before a chunk that was asked for. -/
def Stream.rests : Stream → Bool
  | .running _ _ _ _ _ rested => rested
  | _ => false

/-- A response after it was pulled. -/
def Speech.goOn (e : Echo) (s : Speech) : Speech where
  session := s.session
  text := s.text
  turns :=
    match s.stream with
    | .fresh session _ => (e.held session).length
    | _ => s.turns
  stream := (e.pull s.stream).2.1

namespace Talk

/-- Whether a response rests before a chunk that was asked for. -/
def rests (t : Talk) (i : Nat) : Bool := t.speeches[i]?.any fun s => s.stream.rests

/-- A response goes on. -/
def advance (t : Talk) (i : Nat) : Talk :=
  match t.speeches[i]? with
  | some s => ⟨(t.agent.pull s.stream).1, t.speeches.set i (s.goOn t.agent)⟩
  | none => t

/-- A response is given up. -/
def abandon (t : Talk) (i : Nat) : Talk :=
  match t.speeches[i]? with
  | some s => { t with speeches := t.speeches.set i { s with stream := .ended } }
  | none => t

/-- One move. A response that rests is neither pulled again nor closed. -/
def step (t : Talk) : Move → Talk
  | .create session => { t with agent := (t.agent.create session).1 }
  | .resume session state => { t with agent := (t.agent.resume session state).2.1 }
  | .prompt session text => { t with speeches := t.speeches ++ [⟨session, text, 0, .fresh session text⟩] }
  | .pull i => if t.rests i then t else t.advance i
  | .wake i => if t.rests i then t.advance i else t
  | .close i => if t.rests i then t else t.abandon i

end Talk

/-! ## Deeds -/

/-- What leaves a trace in the turns of a session. -/
inductive Deed
  /-- A session was rebuilt with some turns. -/
  | resumed (session : String) (turns : List Json)
  /-- A response was pulled to its end. The number is that of the turns that its session had when it was pulled
  first. -/
  | exhausted (speech : Nat) (session text : String) (turns : Nat)

namespace Talk

/-- The deed of a response that goes on. -/
def deed? (t : Talk) (i : Nat) : Option Deed :=
  match t.speeches[i]? with
  | some s =>
    match s.stream, (t.agent.pull s.stream).2.2 with
    | .ended, _ => none
    | _, .exhausted => some (.exhausted i s.session s.text (s.goOn t.agent).turns)
    | _, _ => none
  | none => none

/-- The deeds of a move. -/
def deeds (t : Talk) : Move → List Deed
  | .resume session state =>
    match (t.agent.resume session state).1, stateTurns state with
    | .ok (), .ok turns => [.resumed session turns]
    | _, _ => []
  | .pull i => if t.rests i then [] else (t.deed? i).toList
  | .wake i => if t.rests i then (t.deed? i).toList else []
  | _ => []

end Talk

/-- The moments of a talk, each with the deeds that lie behind it. A session is created under a name that the agent
does not know. -/
inductive Reaches (delay : Delay) : Talk → List Deed → Prop
  | start : Reaches delay ⟨.new delay, []⟩ []
  | step {t : Talk} {past : List Deed} (m : Move) : Reaches delay t past →
      (∀ session, m = .create session → Assoc.get? session t.agent.sessions = none) →
      Reaches delay (t.step m) (past ++ t.deeds m)

/-! ## The turns that deeds tell of -/

/-- The turns that a deed rebuilds a session with. -/
def Deed.listing? (session : String) : Deed → Option (List Json)
  | .resumed s turns => if s = session then some turns else none
  | _ => none

/-- The turns that a session was rebuilt with last. -/
def listed (session : String) (past : List Deed) : List Json :=
  (past.reverse.findSome? (Deed.listing? session)).getD []

/-- The deeds since a session was rebuilt last. -/
def since (session : String) (past : List Deed) : List Deed :=
  past.rtakeWhile fun d => (d.listing? session).isNone

/-- The turn that a deed adds to a session. -/
def turn? (session : String) : Deed → Option Json
  | .exhausted _ s text turns => if s = session then some (turnRecord text (reply (turns + 1) text)) else none
  | _ => none

/-- The response that a deed ends. -/
def Deed.speech? : Deed → Option Nat
  | .exhausted i _ _ _ => some i
  | _ => none

/-- The turns that deeds tell of. -/
def told (session : String) (past : List Deed) : List Json :=
  listed session past ++ (since session past).filterMap (turn? session)

section

variable {session : String} {past : List Deed}

theorem told_resumed (turns : List Json) : told session (past ++ [.resumed session turns]) = turns := by
  simp [told, listed, since, Deed.listing?]

theorem told_of_none {d : Deed} (hlisting : d.listing? session = none) (hturn : turn? session d = none) :
    told session (past ++ [d]) = told session past := by
  simp [told, listed, since, hlisting, hturn]

theorem told_exhausted (i : Nat) (text : String) (turns : Nat) :
    told session (past ++ [.exhausted i session text turns]) =
      told session past ++ [turnRecord text (reply (turns + 1) text)] := by
  simp [told, listed, since, List.findSome?_cons, Deed.listing?, turn?]

end

/-! ## Turns that are held -/

section

variable {e : Echo} {session : String} (session' : String)

theorem held_of_history {turns : List Json} (h : e.history session = .ok turns) : e.held session = turns := by
  rw [held, h]

theorem held_begin (h : Assoc.get? session e.sessions = none) : (e.begin session).held session' = e.held session' := by
  rw [held, held, history_begin]
  by_cases heq : session = session'
  · subst heq
    simp [history, h]
  · rw [if_neg heq]

theorem held_ensure : (e.ensure session).held session' = e.held session' := by
  unfold ensure
  split
  · rfl
  · next h => exact held_begin session' (by simpa [Assoc.contains] using h)

theorem held_setHistory {s : EchoSession} (h : Assoc.get? session e.sessions = some s) (turns : List Json) :
    (e.setHistory session turns).held session' = if session = session' then turns else e.held session' := by
  rw [held, held, history_setHistory h]
  by_cases heq : session = session'
  · simp only [if_pos heq]
  · simp only [if_neg heq]

theorem held_record {birth : Nat} {turns : List Json} (h : Assoc.get? session e.sessions = some ⟨birth, turns⟩)
    (text said : String) : (e.record session birth text said).held session' =
      if session = session' then e.held session ++ [turnRecord text said] else e.held session' := by
  have hheld : e.held session = turns := held_of_history (history_eq_ok.2 ⟨birth, h⟩)
  rw [held, history_record h, hheld, held]
  by_cases heq : session = session'
  · simp only [if_pos heq]
  · simp only [if_neg heq]

/-- A session that is rebuilt has the turns of its state, and keeps its own when the state lists none. -/
theorem held_resume (state : Json) : (e.resume session state).2.1.held session' =
    match stateTurns state with
    | .ok turns => if session = session' then turns else e.held session'
    | .error _ => e.held session' := by
  obtain ⟨s, hs, -⟩ := ensure_spec e session
  unfold resume
  cases stateTurns state with
  | ok turns =>
    refine (held_setHistory session' hs turns).trans ?_
    rw [held_ensure]
  | error f => exact held_ensure session'

end

/-- A session is rebuilt exactly if its state lists turns. -/
theorem result_resume (e : Echo) (session : String) (state : Json) :
    (e.resume session state).1 = (stateTurns state).map fun _ => () := by
  unfold resume
  cases stateTurns state <;> rfl

/-- A state that lists no turns leaves the turns of the sessions that are known. -/
theorem history_resume_error {e : Echo} {session session' : String} {state : Json} {f : Fault} {turns : List Json}
    (hf : (e.resume session state).1 = .error f) (h : e.history session' = .ok turns) :
    (e.resume session state).2.1.history session' = .ok turns := by
  have hensure : (e.resume session state).2.1 = e.ensure session := by
    rw [result_resume] at hf
    unfold resume
    cases hturns : stateTurns state with
    | ok turns => simp [hturns, Except.map] at hf
    | error f => rfl
  rw [hensure, ensure]
  split
  · exact h
  · next hnew =>
    rw [history_begin, if_neg, h]
    rintro rfl
    obtain ⟨birth, hs⟩ := history_eq_ok.1 h
    simp [Assoc.contains, hs] at hnew

/-! ## Sessions that stay -/

/-- The sessions that an agent knows are known to another one under the same birth. -/
def Keeps (e e' : Echo) : Prop :=
  ∀ session birth turns, Assoc.get? session e.sessions = some ⟨birth, turns⟩ →
    ∃ turns', Assoc.get? session e'.sessions = some ⟨birth, turns'⟩

section

variable {e : Echo} {session : String}

theorem Keeps.refl : e.Keeps e := fun _ _ turns h => ⟨turns, h⟩

theorem Keeps.trans {e' e'' : Echo} (h : e.Keeps e') (h' : e'.Keeps e'') : e.Keeps e'' := fun session birth turns hs =>
  have ⟨turns', hs'⟩ := h session birth turns hs
  h' session birth turns' hs'

theorem keeps_begin (h : Assoc.get? session e.sessions = none) : e.Keeps (e.begin session) := by
  intro session' birth turns hs
  have hne : session ≠ session' := by
    rintro rfl
    cases h.symm.trans hs
  exact ⟨turns, (get?_begin_of_ne hne).trans hs⟩

theorem keeps_ensure : e.Keeps (e.ensure session) := by
  unfold ensure
  split
  · exact .refl
  · next h => exact keeps_begin (by simpa [Assoc.contains] using h)

theorem keeps_setHistory (turns : List Json) : e.Keeps (e.setHistory session turns) := by
  intro session' birth turns' hs
  by_cases heq : session = session'
  · subst heq
    exact ⟨turns, by simp [setHistory, hs]⟩
  · exact ⟨turns', (get?_setHistory_of_ne heq turns).trans hs⟩

theorem keeps_resume (state : Json) : e.Keeps (e.resume session state).2.1 := by
  unfold resume
  cases stateTurns state with
  | ok turns => exact keeps_ensure.trans (keeps_setHistory turns)
  | error f => exact keeps_ensure

theorem keeps_record {birth : Nat} {turns : List Json} (h : Assoc.get? session e.sessions = some ⟨birth, turns⟩)
    (text said : String) : e.Keeps (e.record session birth text said) := by
  have hrecord : e.record session birth text said = e.setHistory session (turns ++ [turnRecord text said]) := by
    simp [record, h]
  rw [hrecord]
  exact keeps_setHistory _

end

/-! ## Responses that go on -/

/-- A response says what was settled when it was pulled first, in the session that it began in. -/
def Speech.Fits (s : Speech) (e : Echo) : Prop :=
  match s.stream with
  | .fresh session text => session = s.session ∧ text = s.text
  | .running session birth text said _ _ => session = s.session ∧ text = s.text ∧
      said = reply (s.turns + 1) s.text ∧ ∃ turns, Assoc.get? s.session e.sessions = some ⟨birth, turns⟩
  | .ended => True

theorem Speech.Fits.mono {s : Speech} {e e' : Echo} (h : s.Fits e) (hkeeps : e.Keeps e') : s.Fits e' := by
  unfold Speech.Fits at h ⊢
  split
  · next hstream => rwa [hstream] at h
  · next hstream =>
    rw [hstream] at h
    obtain ⟨hsession, htext, hsaid, turns, hs⟩ := h
    exact ⟨hsession, htext, hsaid, hkeeps _ _ turns hs⟩
  · trivial

/-- A response that has chunks left is not over, and records nothing. -/
theorem speak_cons (e : Echo) (session : String) (birth : Nat) (text said piece : String) (rest : List String)
    (rested : Bool) : ∃ stream pull, e.speak session birth text said (piece :: rest) rested = (e, stream, pull) ∧
      pull ≠ .exhausted ∧
      (stream = .ended ∨ ∃ left rested', stream = .running session birth text said left rested') := by
  unfold speak
  dsimp only
  split
  · exact ⟨_, _, rfl, by simp, .inl rfl⟩
  · exact ⟨_, _, rfl, by simp, .inr ⟨_, _, rfl⟩⟩
  · exact ⟨_, _, rfl, by simp, .inr ⟨_, _, rfl⟩⟩

/-- All that a response can do when it is pulled: it goes on and records nothing, or it is over and its turn is
recorded. -/
inductive Pulled (e : Echo) (s : Speech) : Prop
  | silent : (e.pull s.stream).1 = e → (s.goOn e).Fits e →
      (s.stream = .ended ∨ (e.pull s.stream).2.2 ≠ .exhausted) → Pulled e s
  | recorded (birth : Nat) (turns : List Json) : Assoc.get? s.session e.sessions = some ⟨birth, turns⟩ →
      e.pull s.stream = (e.record s.session birth s.text (reply (s.turns + 1) s.text), .ended, .exhausted) →
      s.stream ≠ .ended → (s.goOn e).turns = s.turns → Pulled e s

theorem pulled_of_fits {e : Echo} {s : Speech} (h : s.Fits e) : Pulled e s := by
  obtain ⟨session, text, n, stream⟩ := s
  cases stream with
  | ended => exact .silent rfl trivial (.inl rfl)
  | fresh session' text' =>
    obtain ⟨rfl, rfl⟩ : session' = session ∧ text' = text := h
    rcases hs : Assoc.get? session' e.sessions with _ | ⟨birth, turns⟩
    · have hpull : e.pull (.fresh session' text') = (e, .ended, .failed (.unknownSession session')) := by
        simp only [pull, hs]
      exact .silent (by rw [hpull]) (by simp [Speech.goOn, Speech.Fits, hpull]) (.inr (by simp [hpull]))
    · obtain ⟨piece, rest, hchunks⟩ := List.exists_cons_of_ne_nil (chunks_ne_nil (reply (turns.length + 1) text'))
      obtain ⟨stream, r, hspeak, hr, hstream⟩ :=
        speak_cons e session' birth text' (reply (turns.length + 1) text') piece rest false
      have hpull : e.pull (.fresh session' text') = (e, stream, r) := by
        simp only [pull, hs, hchunks, hspeak]
      have hheld : e.held session' = turns := held_of_history (history_eq_ok.2 ⟨birth, hs⟩)
      refine .silent (by rw [hpull]) ?_ (.inr (by simpa [hpull] using hr))
      rcases hstream with rfl | ⟨left, rested, rfl⟩
      · simp [Speech.goOn, Speech.Fits, hpull]
      · simp [Speech.goOn, Speech.Fits, hpull, hheld, hs]
  | running session' birth text' said left rested =>
    obtain ⟨rfl, rfl, rfl, turns, hs⟩ : session' = session ∧ text' = text ∧ said = reply (n + 1) text ∧
      ∃ turns, Assoc.get? session e.sessions = some ⟨birth, turns⟩ := h
    cases left with
    | nil => exact .recorded birth turns hs rfl (by simp) rfl
    | cons piece rest =>
      obtain ⟨stream, r, hspeak, hr, hstream⟩ :=
        speak_cons e session' birth text' (reply (n + 1) text') piece rest rested
      have hpull : e.pull (.running session' birth text' (reply (n + 1) text') (piece :: rest) rested) =
          (e, stream, r) := hspeak
      refine .silent (by rw [hpull]) ?_ (.inr (by simpa [hpull] using hr))
      rcases hstream with rfl | ⟨left, rested', rfl⟩
      · simp [Speech.goOn, Speech.Fits, hpull]
      · simp [Speech.goOn, Speech.Fits, hpull, hs]

/-! ## What deeds tell at every moment -/

/-- The deeds tell of the turns that are held, the responses fit, and those that were pulled to their end are over. -/
structure Told (t : Talk) (past : List Deed) : Prop where
  turns : ∀ session, t.agent.held session = told session past
  fits : ∀ s ∈ t.speeches, s.Fits t.agent
  ended : ∀ i ∈ past.filterMap Deed.speech?, ∃ s, t.speeches[i]? = some s ∧ s.stream = .ended
  once : (past.filterMap Deed.speech?).Nodup

theorem told_start (delay : Delay) : Told ⟨.new delay, []⟩ [] where
  turns _ := rfl
  fits _ h := nomatch h
  ended _ h := nomatch h
  once := List.nodup_nil

section

variable {t : Talk} {past : List Deed} (h : Told t past)
include h

/-- The agent changes and no response does. -/
theorem Told.agent {e : Echo} (hkeeps : t.agent.Keeps e) {deeds : List Deed}
    (hdeeds : deeds.filterMap Deed.speech? = []) (hheld : ∀ session, e.held session = told session (past ++ deeds)) :
    Told { t with agent := e } (past ++ deeds) where
  turns := hheld
  fits s hs := (h.fits s hs).mono hkeeps
  ended i hi := h.ended i (by simpa [hdeeds] using hi)
  once := by simpa [hdeeds] using h.once

theorem told_create {session : String} (hnew : Assoc.get? session t.agent.sessions = none) :
    Told (t.step (.create session)) (past ++ t.deeds (.create session)) :=
  h.agent (keeps_begin hnew) rfl fun session' => by
    rw [show t.deeds (.create session) = [] from rfl, List.append_nil, ← h.turns]
    exact held_begin session' hnew

theorem told_resume (session : String) (state : Json) :
    Told (t.step (.resume session state)) (past ++ t.deeds (.resume session state)) := by
  have hresult := result_resume t.agent session state
  cases hturns : stateTurns state with
  | error f =>
    have hdeeds : t.deeds (.resume session state) = [] := by simp only [Talk.deeds, hresult, hturns, Except.map]
    rw [hdeeds]
    refine h.agent (keeps_resume state) rfl fun session' => ?_
    rw [held_resume, hturns, List.append_nil]
    exact h.turns session'
  | ok turns =>
    have hdeeds : t.deeds (.resume session state) = [.resumed session turns] := by
      simp only [Talk.deeds, hresult, hturns, Except.map]
    rw [hdeeds]
    refine h.agent (keeps_resume state) rfl fun session' => ?_
    rw [held_resume, hturns]
    by_cases heq : session = session'
    · subst heq
      rw [told_resumed]
      exact if_pos rfl
    · rw [told_of_none (by simp [Deed.listing?, heq]) rfl, ← h.turns]
      exact if_neg heq

theorem told_prompt (session text : String) :
    Told (t.step (.prompt session text)) (past ++ t.deeds (.prompt session text)) := by
  refine ⟨fun session' => ?_, fun s hs => ?_, fun i hi => ?_, ?_⟩
  · rw [show t.deeds (.prompt session text) = [] from rfl, List.append_nil]
    exact h.turns session'
  · rcases List.mem_append.1 hs with hs | hs
    · exact h.fits s hs
    · obtain rfl := List.mem_singleton.1 hs
      exact ⟨rfl, rfl⟩
  · obtain ⟨s, hs, hstream⟩ := h.ended i (by simpa [Talk.deeds] using hi)
    exact ⟨s, (List.getElem?_append_left (List.getElem?_eq_some_iff.1 hs).1).trans hs, hstream⟩
  · simpa [Talk.deeds] using h.once

/-- A response that was not over becomes another one. -/
theorem Told.speech {i : Nat} {s s' : Speech} (hi : t.speeches[i]? = some s) {e : Echo} (hkeeps : t.agent.Keeps e)
    (hfits : s'.Fits e) (hover : s.stream = .ended → s'.stream = .ended) {deeds : List Deed}
    (hdeeds : ∀ j ∈ deeds.filterMap Deed.speech?, j = i ∧ s.stream ≠ .ended ∧ s'.stream = .ended)
    (honce : (deeds.filterMap Deed.speech?).Nodup) (hheld : ∀ session, e.held session = told session (past ++ deeds)) :
    Told ⟨e, t.speeches.set i s'⟩ (past ++ deeds) where
  turns := hheld
  fits s'' hs'' := by
    rcases List.mem_or_eq_of_mem_set hs'' with hs'' | rfl
    · exact (h.fits s'' hs'').mono hkeeps
    · exact hfits
  ended j hj := by
    have hlt := (List.getElem?_eq_some_iff.1 hi).1
    rw [List.filterMap_append, List.mem_append] at hj
    rcases hj with hj | hj
    · obtain ⟨s'', hs'', hstream⟩ := h.ended j hj
      by_cases hij : i = j
      · subst hij
        obtain rfl : s = s'' := Option.some.inj (hi.symm.trans hs'')
        exact ⟨s', List.getElem?_set_self hlt, hover hstream⟩
      · exact ⟨s'', (List.getElem?_set_ne hij).trans hs'', hstream⟩
    · obtain ⟨rfl, -, hstream⟩ := hdeeds j hj
      exact ⟨s', List.getElem?_set_self hlt, hstream⟩
  once := by
    rw [List.filterMap_append, List.nodup_append]
    refine ⟨h.once, honce, ?_⟩
    rintro j hj _ hj' rfl
    obtain ⟨rfl, hrunning, -⟩ := hdeeds j hj'
    obtain ⟨s'', hs'', hstream⟩ := h.ended j hj
    obtain rfl : s = s'' := Option.some.inj (hi.symm.trans hs'')
    exact hrunning hstream

theorem told_advance (i : Nat) : Told (t.advance i) (past ++ (t.deed? i).toList) := by
  rcases hi : t.speeches[i]? with _ | s
  · simpa [Talk.advance, Talk.deed?, hi] using h
  have hended : s.stream = .ended → (s.goOn t.agent).stream = .ended := fun hstream => by
    simp [Speech.goOn, hstream, pull]
  have hadvance : t.advance i = ⟨(t.agent.pull s.stream).1, t.speeches.set i (s.goOn t.agent)⟩ := by
    simp only [Talk.advance, hi]
  rw [hadvance]
  cases pulled_of_fits (h.fits s (List.mem_of_getElem? hi)) with
  | silent hagent hfits hsilent =>
    have hdeed : t.deed? i = none := by
      simp only [Talk.deed?, hi]
      split
      · rfl
      · next hpull hrunning => exact (hsilent.elim hrunning (absurd hpull)).elim
      · rfl
    rw [hdeed, hagent]
    exact h.speech hi .refl hfits hended (by simp) (by simp) fun session => by
      rw [h.turns]
      simp
  | recorded birth turns hsession hpull hrunning hturns =>
    have hdeed : t.deed? i = some (.exhausted i s.session s.text s.turns) := by
      simp only [Talk.deed?, hi, hpull, hturns]
    have hstream : (s.goOn t.agent).stream = .ended := by
      rw [Speech.goOn, hpull]
    rw [hdeed, hpull]
    refine h.speech hi (keeps_record hsession _ _) (by rw [Speech.Fits, hstream]; trivial) hended
      (by simp [Deed.speech?, hrunning, hstream]) (by simp [Deed.speech?]) fun session => ?_
    rw [held_record session hsession, Option.toList]
    by_cases heq : s.session = session
    · subst heq
      rw [if_pos rfl, told_exhausted, h.turns]
    · rw [if_neg heq, told_of_none rfl (by simp [turn?, heq]), h.turns]

theorem told_abandon (i : Nat) : Told (t.abandon i) past := by
  rcases hi : t.speeches[i]? with _ | s
  · simpa [Talk.abandon, hi] using h
  · have hend : Told ⟨t.agent, t.speeches.set i { s with stream := .ended }⟩ (past ++ []) :=
      h.speech hi .refl (by simp [Speech.Fits]) (fun _ => rfl) (by simp) (by simp) fun session => by
        simpa using h.turns session
    simpa [Talk.abandon, hi] using hend

theorem told_step (m : Move) (hnew : ∀ session, m = .create session → Assoc.get? session t.agent.sessions = none) :
    Told (t.step m) (past ++ t.deeds m) := by
  cases m with
  | create session => exact told_create h (hnew session rfl)
  | resume session state => exact told_resume h session state
  | prompt session text => exact told_prompt h session text
  | pull i =>
    simp only [Talk.step, Talk.deeds]
    split
    · simpa using h
    · exact told_advance h i
  | wake i =>
    simp only [Talk.step, Talk.deeds]
    split
    · exact told_advance h i
    · simpa using h
  | close i =>
    simp only [Talk.step, Talk.deeds, List.append_nil]
    split
    · exact h
    · exact told_abandon h i

end

theorem Reaches.told {delay : Delay} {t : Talk} {past : List Deed} (h : Reaches delay t past) : Told t past := by
  induction h with
  | start => exact told_start delay
  | step m _ hnew ih => exact told_step ih m hnew

/-- **The turns of a session are those that it was rebuilt with last, and those of the responses that were pulled to
their end since then.** They are recorded in the order in which the responses came to their end, each once, and every
reply counts the turns that the session had when the response was pulled first. A state that lists no turns leaves the
turns of all sessions as they are. -/
theorem turns_told {delay : Delay} {t : Talk} {past : List Deed} (h : Reaches delay t past) :
    (∀ session turns, t.agent.history session = .ok turns →
      turns = listed session past ++ (since session past).filterMap (turn? session)) ∧
    (past.filterMap Deed.speech?).Nodup ∧
    ∀ session state f, (t.agent.resume session state).1 = .error f →
      ∀ session' turns, t.agent.history session' = .ok turns →
        (t.agent.resume session state).2.1.history session' = .ok turns := by
  refine ⟨fun session turns hturns => ?_, h.told.once, fun _ _ _ hf _ _ hturns => history_resume_error hf hturns⟩
  rw [← held_of_history hturns]
  exact h.told.turns session

/-! ## Two responses of one session -/

/-- A talk and its deeds after some moves. -/
def follow (moves : List Move) (s : Talk × List Deed) : Talk × List Deed :=
  moves.foldl (fun s m => (s.1.step m, s.2 ++ s.1.deeds m)) s

theorem Reaches.follow {delay : Delay} {moves : List Move} (hnew : ∀ m ∈ moves, ∀ session, m ≠ .create session)
    {s : Talk × List Deed} (h : Reaches delay s.1 s.2) :
    Reaches delay (Echo.follow moves s).1 (Echo.follow moves s).2 := by
  induction moves generalizing s with
  | nil => exact h
  | cons m moves ih =>
    have hm : ∀ session, m = .create session → Assoc.get? session s.1.agent.sessions = none := fun session heq =>
      absurd heq (hnew m List.mem_cons_self session)
    exact ih (fun m' hm' => hnew m' (List.mem_cons_of_mem _ hm')) (h.step m hm)

/-- Two responses begin in a session without turns. A state without turns is refused, the first response comes to its
end, the session is rebuilt, and the second one comes to its end. -/
def crossedMoves : List Move :=
  let listing (turns : Json) : Json := .obj [("history", turns)]
  [.prompt "s" "a", .prompt "s" "b", .pull 0, .pull 1, .resume "s" (listing (.int 3))] ++
    List.replicate 5 (.pull 0) ++ [.resume "s" (listing (.arr [.int 7]))] ++ List.replicate 5 (.pull 1)

/-- An agent with one session and these responses. -/
def crossed : Talk × List Deed := follow crossedMoves (⟨(new .none).begin "s", []⟩, [])

/-- The session has the turn that it was rebuilt with, and that of the second response, which began as the first. -/
theorem crossed_told :
    [.int 7, turnRecord "b" "[turn 1] You said: b"] =
      listed "s" crossed.2 ++ (since "s" crossed.2).filterMap (turn? "s") := by
  have hbegun : Reaches .none ⟨(new .none).begin "s", []⟩ [] :=
    .step (.create "s") .start fun session heq => by cases heq; rfl
  have hmoves : ∀ m ∈ crossedMoves, ∀ session, m ≠ .create session := by simp [crossedMoves]
  have hcrossed : Reaches .none crossed.1 crossed.2 := Reaches.follow hmoves hbegun
  exact (turns_told hcrossed).1 "s" _ rfl

end ChatRelay.Echo
