import ChatRelay.Agent.Echo

/-!
# The sessions and the responses of the echo agent

- `Echo.history_create`, `Echo.resume_listed`, `Echo.history_record`: the turns of every session after a change;
- `Echo.next_fresh`, `Echo.next_running`, `Echo.next_unusable`, `Echo.next_over`: what pulling a response past its
  pauses gives;
- `Echo.Midway`: a response of which some chunks are given, and `Echo.Midway.pull`, what pulling it once gives;
- `Echo.join_chunks`: the chunks of a text put together are the text.
-/

namespace ChatRelay.Echo

variable (e : Echo) (session session' : String)

/-! ## Turns -/

theorem history_eq_ok {e : Echo} {session : String} {turns : List Json} :
    e.history session = .ok turns ↔ ∃ birth, Assoc.get? session e.sessions = some ⟨birth, turns⟩ := by
  unfold history
  rcases Assoc.get? session e.sessions with _ | ⟨birth, turns'⟩ <;> simp

@[simp] theorem delay_setHistory (turns : List Json) : (e.setHistory session turns).delay = e.delay := by
  unfold setHistory
  split <;> rfl

/-- A session that is there gets other turns. -/
theorem history_setHistory {e : Echo} {session : String} {s : EchoSession}
    (h : Assoc.get? session e.sessions = some s) (session' : String) (turns : List Json) :
    (e.setHistory session turns).history session' =
      if session = session' then .ok turns else e.history session' := by
  by_cases heq : session = session'
  · subst heq
    simp [setHistory, history, h]
  · simp [setHistory, history, h, Assoc.get?_put_of_ne, heq]

/-- A new session has no turns, also when there was one of its name. -/
theorem history_begin : (e.begin session).history session' =
    if session = session' then .ok [] else e.history session' := by
  by_cases heq : session = session'
  · subst heq
    simp [begin, history]
  · simp [begin, history, Assoc.get?_put_of_ne, heq]

theorem history_create : (e.create session).1.history session' =
    if session = session' then .ok [] else e.history session' := history_begin e session session'

theorem ensure_spec : ∃ s, Assoc.get? session (e.ensure session).sessions = some s ∧
    (e.ensure session).delay = e.delay ∧
      ∀ session', session ≠ session' → (e.ensure session).history session' = e.history session' := by
  unfold ensure
  split
  · next h =>
    obtain ⟨s, hs⟩ := Option.isSome_iff_exists.1 h
    exact ⟨s, hs, rfl, fun _ _ => rfl⟩
  · refine ⟨⟨e.births, []⟩, Assoc.get?_put_self _ _ _, rfl, fun session' hne => ?_⟩
    rw [history_begin, if_neg hne]

/-- A session that is rebuilt has the turns that its state lists. -/
theorem resume_listed (turns : List Json) : ∃ e' notices,
    e.resume session (.obj [("history", .arr turns)]) = (.ok (), e', notices) ∧ e'.delay = e.delay ∧
      ∀ session', e'.history session' = if session = session' then .ok turns else e.history session' := by
  obtain ⟨s, hs, hdelay, hother⟩ := ensure_spec e session
  refine ⟨_, _, rfl, by simp [hdelay], fun session' => ?_⟩
  rw [history_setHistory hs]
  split
  · rfl
  · next hne => exact hother session' hne

/-- A turn is recorded in the session that its response began in. -/
theorem history_record {e : Echo} {session : String} {birth : Nat} {turns : List Json}
    (h : Assoc.get? session e.sessions = some ⟨birth, turns⟩) (text said : String) (session' : String) :
    (e.record session birth text said).history session' =
      if session = session' then .ok (turns ++ [turnRecord text said]) else e.history session' := by
  rw [← history_setHistory h]
  simp [record, h]

/-- A session that has turns has some after a turn was recorded in any session. -/
theorem known_record {e : Echo} {session' : String} {turns : List Json} (h : e.history session' = .ok turns)
    (session : String) (birth : Nat) (text said : String) :
    ∃ turns', (e.record session birth text said).history session' = .ok turns' := by
  unfold record
  split
  · next s hs =>
    split
    · rw [history_setHistory hs]
      split
      · exact ⟨_, rfl⟩
      · exact ⟨turns, h⟩
    · exact ⟨turns, h⟩
  · exact ⟨turns, h⟩

theorem delay_record (birth : Nat) (text said : String) : (e.record session birth text said).delay = e.delay := by
  unfold record
  split
  · split
    · simp
    · rfl
  · rfl

/-! ## Responses -/

theorem speak_sessions (birth : Nat) (text said : String) (left : List String) (rested : Bool) :
    (e.speak session birth text said left rested).1 = e ∨
      (e.speak session birth text said left rested).2.2 = .exhausted ∧
        (e.speak session birth text said left rested).1 = e.record session birth text said := by
  cases left with
  | nil => exact .inr ⟨rfl, rfl⟩
  | cons piece rest =>
    left
    unfold speak
    dsimp only
    split <;> rfl

/-- Pulling a response changes no session, unless it is over and its turn is recorded. -/
theorem pull_sessions (stream : Stream) : (e.pull stream).1 = e ∨ (e.pull stream).2.2 = .exhausted ∧
    ∃ session birth text said, (e.pull stream).1 = e.record session birth text said := by
  cases stream with
  | fresh session text =>
    rcases hs : Assoc.get? session e.sessions with _ | s
    · simp [pull, hs]
    · have hpull : e.pull (.fresh session text) = e.speak session s.birth text (reply (s.history.length + 1) text)
          (chunks (reply (s.history.length + 1) text)) false := by simp only [pull, hs]
      rw [hpull]
      exact (speak_sessions e session _ _ _ _ _).imp_right fun h => ⟨h.1, _, _, _, _, h.2⟩
  | running session birth text said left rested =>
    exact (speak_sessions e session birth text said left rested).imp_right fun h => ⟨h.1, _, _, _, _, h.2⟩
  | ended => exact .inl rfl

/-- No session is lost when a response is pulled. -/
theorem known_pull {e : Echo} {session : String} {turns : List Json} (h : e.history session = .ok turns)
    (stream : Stream) : ∃ turns', (e.pull stream).1.history session = .ok turns' := by
  rcases pull_sessions e stream with heq | ⟨-, session', birth, text, said, heq⟩ <;> rw [heq]
  · exact ⟨turns, h⟩
  · exact known_record h session' birth text said

theorem chunks_ne_nil (text : String) : chunks text ≠ [] := by
  have hchunks (part cs : List Char) : chunksFrom part cs ≠ [] := by
    induction cs generalizing part with
    | nil => simp [chunksFrom]
    | cons c cs ih =>
      unfold chunksFrom
      split
      · simp
      · exact ih _
  simpa [chunks] using hchunks [] text.toList

section

variable {e : Echo} {session : String}

/-- What a response says is settled when it is pulled first. -/
theorem next_fresh {birth : Nat} {turns : List Json} (h : Assoc.get? session e.sessions = some ⟨birth, turns⟩)
    (text : String) : e.next (.fresh session text) =
      e.next (.running session birth text (reply (turns.length + 1) text)
        (chunks (reply (turns.length + 1) text)) false) := by
  simp [next, pull, h]

/-- The next chunk of a response. -/
theorem next_running (h : ∀ kind, e.delay ≠ .unusable kind) (birth : Nat) (text said piece : String)
    (rest : List String) : e.next (.running session birth text said (piece :: rest) false) =
      (e, .running session birth text said rest false, .chunk piece) := by
  rcases hd : e.delay with _ | _ | kind
  · simp [next, pull, speak, hd]
  · simp [next, pull, speak, hd]
  · exact absurd hd (h kind)

/-- A response of an agent that cannot wait breaks off before its first chunk. -/
theorem next_unusable {kind : String} (h : e.delay = .unusable kind) (birth : Nat) (text said piece : String)
    (rest : List String) : e.next (.running session birth text said (piece :: rest) false) =
      (e, .ended, .failed (.delayNotNumber kind)) := by
  simp [next, pull, speak, h]

/-- A response that has no more chunks is recorded. -/
theorem next_over (birth : Nat) (text said : String) : e.next (.running session birth text said [] false) =
    (e.record session birth text said, .ended, .exhausted) := by
  simp [next, pull, speak]

end

/-! ## Sessions apart -/

theorem get?_begin_of_ne {e : Echo} {session session' : String} (h : session ≠ session') :
    Assoc.get? session' (e.begin session).sessions = Assoc.get? session' e.sessions := Assoc.get?_put_of_ne _ _ h

theorem get?_setHistory_of_ne {e : Echo} {session session' : String} (h : session ≠ session') (turns : List Json) :
    Assoc.get? session' (e.setHistory session turns).sessions = Assoc.get? session' e.sessions := by
  unfold setHistory
  split
  · exact Assoc.get?_put_of_ne _ _ h
  · rfl

/-- A turn that is recorded is nothing to other sessions. -/
theorem get?_record_of_ne {e : Echo} {session session' : String} (h : session ≠ session') (birth : Nat)
    (text said : String) :
    Assoc.get? session' (e.record session birth text said).sessions = Assoc.get? session' e.sessions := by
  unfold record
  split
  · split
    · exact get?_setHistory_of_ne h _
    · rfl
  · rfl

theorem get?_record_self {e : Echo} {session : String} {birth : Nat} {turns : List Json}
    (h : Assoc.get? session e.sessions = some ⟨birth, turns⟩) (text said : String) :
    Assoc.get? session (e.record session birth text said).sessions =
      some ⟨birth, turns ++ [turnRecord text said]⟩ := by
  simp [record, setHistory, h]

/-! ## Chunk by chunk -/

/-- A response of which some chunks are given, while its session is as it was when the response began. -/
inductive Midway (e : Echo) (session text said : String) : Stream → List String → Prop
  | fresh : Midway e session text said (.fresh session text) []
  | running {birth : Nat} {turns : List Json} {told left : List String} {rested : Bool} :
      Assoc.get? session e.sessions = some ⟨birth, turns⟩ → told ++ left = chunks said →
      Midway e session text said (.running session birth text said left rested) told

/-- Nothing but its session matters to a response. -/
theorem Midway.congr {e e' : Echo} {session text said : String} {stream : Stream} {told : List String}
    (h : e.Midway session text said stream told)
    (hsame : Assoc.get? session e'.sessions = Assoc.get? session e.sessions) :
    e'.Midway session text said stream told := by
  cases h with
  | fresh => exact .fresh
  | running hsession hleft => exact .running (hsame.trans hsession) hleft

theorem Midway.begins {e : Echo} {session text said : String} {stream : Stream} {told : List String}
    (h : e.Midway session text said stream told) : told <+: chunks said := by
  cases h with
  | fresh => exact List.nil_prefix
  | running hsession hleft => exact ⟨_, hleft⟩

/-- What pulling a response gives: a pause, the next chunk, or the end when all chunks are given. -/
inductive Gives (e : Echo) (session : String) (birth : Nat) (text said : String) (told : List String) :
    Echo × Stream × Pull → Prop
  | pause {stream : Stream} : e.Midway session text said stream told →
      Gives e session birth text said told (e, stream, .pause)
  | chunk {stream : Stream} {piece : String} : e.Midway session text said stream (told ++ [piece]) →
      Gives e session birth text said told (e, stream, .chunk piece)
  | ended : told = chunks said →
      Gives e session birth text said told (e.record session birth text said, .ended, .exhausted)

theorem Gives.of_pause {e e' : Echo} {session text said : String} {birth : Nat} {told : List String} {stream : Stream}
    (h : Gives e session birth text said told (e', stream, .pause)) : e.Midway session text said stream told := by
  cases h with
  | pause h => exact h

section

variable {e : Echo} (hdelay : ∀ kind, e.delay ≠ .unusable kind) {session text said : String} {birth : Nat}
  {turns : List Json} (hsession : Assoc.get? session e.sessions = some ⟨birth, turns⟩) {told : List String}
include hdelay hsession

theorem gives_speak {left : List String} (hleft : told ++ left = chunks said) (rested : Bool) :
    Gives e session birth text said told (e.speak session birth text said left rested) := by
  cases left with
  | nil => exact .ended (by simpa using hleft)
  | cons piece rest =>
    have hpause : e.Midway session text said (.running session birth text said (piece :: rest) true) told :=
      .running hsession hleft
    have hchunk : e.Midway session text said (.running session birth text said rest false) (told ++ [piece]) :=
      .running hsession (by simpa using hleft)
    rcases hd : e.delay with _ | _ | kind
    · simpa [speak, hd] using Gives.chunk hchunk
    · cases rested with
      | false => simpa [speak, hd] using Gives.pause hpause
      | true => simpa [speak, hd] using Gives.chunk hchunk
    · exact absurd hd (hdelay kind)

theorem Midway.pull {stream : Stream} (h : e.Midway session text said stream told)
    (hsaid : said = reply (turns.length + 1) text) : Gives e session birth text said told (e.pull stream) := by
  cases h with
  | fresh =>
    have hpull : e.pull (.fresh session text) = e.speak session birth text said (chunks said) false := by
      simp only [Echo.pull, hsession, hsaid]
    rw [hpull]
    exact gives_speak hdelay hsession rfl false
  | @running birth' _ _ left rested hsame hleft =>
    obtain ⟨rfl, rfl⟩ : birth' = birth ∧ _ = turns := by simpa using hsame.symm.trans hsession
    exact gives_speak hdelay hsession hleft rested

end

/-! ## Chunks put together -/

theorem flatten_chunksFrom (part cs : List Char) : (chunksFrom part cs).flatten = part.reverse ++ cs := by
  induction cs generalizing part with
  | nil => simp [chunksFrom]
  | cons c cs ih =>
    unfold chunksFrom
    split <;> simp [ih]

theorem join_chunks (text : String) : String.join (chunks text) = text := by
  have hjoin (css : List (List Char)) : (String.join (css.map String.ofList)).toList = css.flatten := by
    induction css with
    | nil => simp
    | cons cs css ih => simp [ih]
  apply String.toList_inj.1
  rw [chunks, hjoin, flatten_chunksFrom]
  simp

end ChatRelay.Echo
