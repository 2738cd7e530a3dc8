import ChatRelay.Proofs.Agent.Echo

/-!
# The chunks of a response

A response is cut after every space, whatever else is in it. Only the last chunk has none at its end, and it is empty
when the response ends with a space.

- `Echo.Cut`: a text in chunks that end with a space, but for the last one. There is one way to cut a text
  (`Cut.unique`), and it is what `chunks` gives (`cut_chunks`);
- `Echo.Exhausts`: a response that is pulled to its end, each time by the agent as it is then;
- `Echo.exhausts_left`, `Echo.exhausts_take`: it gives the chunks that are left and no others, and comes to its end;
- `Echo.chunks_canonical`: what a response gives is its text, cut.
-/

namespace ChatRelay.Echo

/-! ## Texts in chunks -/

/-- Chunks that end with the only space in them, and a last one without spaces. -/
inductive Spaced : List (List Char) → Prop
  | last {word : List Char} : ' ' ∉ word → Spaced [word]
  | cons {word : List Char} {css : List (List Char)} : ' ' ∉ word → Spaced css → Spaced ((word ++ [' ']) :: css)

theorem Spaced.exists_cons {css : List (List Char)} (h : Spaced css) : ∃ c rest, css = c :: rest := by
  cases h <;> exact ⟨_, _, rfl⟩

/-- A chunk that has begun goes on up to the next space. -/
theorem chunksFrom_append {word : List Char} (h : ' ' ∉ word) (part cs : List Char) :
    chunksFrom part (word ++ cs) = chunksFrom (word.reverse ++ part) cs := by
  induction word generalizing part with
  | nil => rfl
  | cons c word ih =>
    obtain ⟨hc, hword⟩ := not_or.1 (mt List.mem_cons.2 h)
    rw [List.cons_append, chunksFrom, if_neg (Ne.symm hc), ih hword, List.reverse_cons, List.append_assoc,
      List.singleton_append]

theorem spaced_chunksFrom {part : List Char} (h : ' ' ∉ part) (cs : List Char) : Spaced (chunksFrom part cs) := by
  induction cs generalizing part with
  | nil => exact .last (by simpa using h)
  | cons c cs ih =>
    rw [chunksFrom]
    split
    · next hc =>
      rw [hc, List.reverse_cons]
      exact .cons (by simpa using h) (ih List.not_mem_nil)
    · next hc => exact ih (by simp [Ne.symm hc, h])

/-- Chunks that are put together are cut where they were. -/
theorem chunksFrom_flatten {css : List (List Char)} (h : Spaced css) : chunksFrom [] css.flatten = css := by
  induction h with
  | @last word hword =>
    have hcut := chunksFrom_append hword [] []
    simpa [chunksFrom] using hcut
  | @cons word css hword _ ih =>
    rw [List.flatten_cons, List.append_assoc, chunksFrom_append hword, List.singleton_append, chunksFrom, if_pos rfl,
      ih]
    simp

/-- There is one chunk more than there are spaces. -/
theorem length_of_spaced {css : List (List Char)} (h : Spaced css) : css.length = css.flatten.count ' ' + 1 := by
  induction h with
  | last hword => simp [List.count_eq_zero_of_not_mem hword]
  | cons hword _ ih =>
    rw [List.length_cons, ih, List.flatten_cons, List.count_append, List.count_append,
      List.count_eq_zero_of_not_mem hword, List.count_singleton_self]
    omega

/-- A text in chunks: put together they are the text, every chunk but the last ends with the only space in it, and the
last has none. -/
structure Cut (said : String) (cs : List String) : Prop where
  joined : String.join cs = said
  inner : ∀ c ∈ cs.dropLast, ∃ word : String, ' ' ∉ word.toList ∧ c = word ++ " "
  last : ∃ c, cs.getLast? = some c ∧ ' ' ∉ c.toList
  length : cs.length = said.toList.count ' ' + 1

theorem spaced_of_ends {cs : List String}
    (hinner : ∀ c ∈ cs.dropLast, ∃ word : String, ' ' ∉ word.toList ∧ c = word ++ " ")
    (hlast : ∃ c, cs.getLast? = some c ∧ ' ' ∉ c.toList) : Spaced (cs.map String.toList) := by
  induction cs with
  | nil => simp at hlast
  | cons c cs ih =>
    cases cs with
    | nil =>
      obtain ⟨c', hc', hspace⟩ := hlast
      obtain rfl : c = c' := by simpa using hc'
      exact .last hspace
    | cons c' cs =>
      rw [List.dropLast_cons_cons, List.forall_mem_cons] at hinner
      obtain ⟨⟨word, hword, rfl⟩, hinner⟩ := hinner
      rw [List.map_cons, String.toList_append]
      exact .cons hword (ih hinner (by simpa using hlast))

theorem cut_of_spaced {css : List (List Char)} (h : Spaced css) :
    Cut (String.ofList css.flatten) (css.map String.ofList) where
  joined := by
    rw [← String.toList_inj, String.toList_join, List.flatMap_map]
    simp [List.flatMap_def]
  inner := by
    induction h with
    | last => simp
    | @cons word css hword hcss ih =>
      obtain ⟨c, rest, rfl⟩ := hcss.exists_cons
      rw [List.map_cons, List.map_cons, List.dropLast_cons_cons, List.forall_mem_cons]
      exact ⟨⟨String.ofList word, by simpa using hword, by simp⟩, by simpa using ih⟩
  last := by
    induction h with
    | last hword => exact ⟨_, rfl, by simpa using hword⟩
    | @cons word css _ hcss ih =>
      obtain ⟨c, rest, rfl⟩ := hcss.exists_cons
      simpa using ih
  length := by simpa using length_of_spaced h

/-- A text can be cut in one way only. -/
theorem Cut.unique {said : String} {cs cs' : List String} (h : Cut said cs) (h' : Cut said cs') : cs = cs' := by
  have hchunks {cs : List String} (h : Cut said cs) : chunks said = cs := by
    rw [chunks, ← h.joined, String.toList_join, List.flatMap_def, chunksFrom_flatten (spaced_of_ends h.inner h.last)]
    simp
  rw [← hchunks h, hchunks h']

theorem cut_chunks (said : String) : Cut said (chunks said) := by
  have hcut := cut_of_spaced (spaced_chunksFrom (List.not_mem_nil (a := ' ')) said.toList)
  rw [flatten_chunksFrom] at hcut
  simpa [chunks] using hcut

/-! ## Responses that are pulled to their end -/

/-- A response is pulled to its end, each time by the agent as it is then, and gives chunks. -/
inductive Exhausts : Stream → List Echo → List String → Prop
  | spent {stream : Stream} {e : Echo} : stream ≠ .ended → (e.pull stream).2.2 = .exhausted →
      Exhausts stream [e] []
  | pause {stream : Stream} {e : Echo} {es : List Echo} {cs : List String} : (e.pull stream).2.2 = .pause →
      Exhausts (e.pull stream).2.1 es cs → Exhausts stream (e :: es) cs
  | chunk {stream : Stream} {e : Echo} {es : List Echo} {piece : String} {cs : List String} :
      (e.pull stream).2.2 = .chunk piece → Exhausts (e.pull stream).2.1 es cs →
      Exhausts stream (e :: es) (piece :: cs)

section

variable {e : Echo} {session : String} {birth : Nat} {text said piece : String} {rest left : List String}
  {rested : Bool}

/-- What a response with chunks left does when it is pulled: it breaks off, it pauses before the next chunk, or it gives
that chunk. -/
inductive Speaks (e : Echo) (session : String) (birth : Nat) (text said piece : String) (rest : List String) :
    Bool → Echo × Stream × Pull → Prop
  | failed {rested : Bool} {kind : String} : e.delay = .unusable kind →
      Speaks e session birth text said piece rest rested (e, .ended, .failed (.delayNotNumber kind))
  | pause : Speaks e session birth text said piece rest false
      (e, .running session birth text said (piece :: rest) true, .pause)
  | chunk {rested : Bool} : Speaks e session birth text said piece rest rested
      (e, .running session birth text said rest false, .chunk piece)

theorem speaks_pull (rested : Bool) : Speaks e session birth text said piece rest rested
    (e.pull (.running session birth text said (piece :: rest) rested)) := by
  rcases hdelay : e.delay with _ | _ | kind
  · simpa [pull, speak, hdelay] using Speaks.chunk
  · cases rested
    · simpa [pull, speak, hdelay] using Speaks.pause
    · simpa [pull, speak, hdelay] using Speaks.chunk
  · simpa [pull, speak, hdelay] using Speaks.failed hdelay

/-- A response with chunks left is pulled to its end: it pauses, unless it did before, or it gives the next chunk. -/
theorem Exhausts.cons {es : List Echo} {cs : List String}
    (h : Exhausts (.running session birth text said (piece :: rest) rested) es cs) :
    (rested = false ∧ ∃ es', Exhausts (.running session birth text said (piece :: rest) true) es' cs) ∨
      ∃ es' cs', cs = piece :: cs' ∧ Exhausts (.running session birth text said rest false) es' cs' := by
  have hspeaks (e : Echo) : Speaks e session birth text said piece rest rested
      (e.pull (.running session birth text said (piece :: rest) rested)) := speaks_pull rested
  cases h with
  | @spent _ e _ hpull =>
    specialize hspeaks e
    generalize e.pull _ = r at hpull hspeaks
    cases hspeaks <;> cases hpull
  | @pause _ e es cs hpull hrest =>
    specialize hspeaks e
    generalize e.pull _ = r at hpull hspeaks hrest
    cases hspeaks with
    | failed => cases hpull
    | pause => exact .inl ⟨rfl, _, hrest⟩
    | chunk => cases hpull
  | @chunk _ e es piece' cs hpull hrest =>
    specialize hspeaks e
    generalize e.pull _ = r at hpull hspeaks hrest
    cases hspeaks with
    | failed => cases hpull
    | pause => cases hpull
    | chunk => exact .inr ⟨_, _, by rw [Pull.chunk.inj hpull], hrest⟩

/-- A response that was settled gives the chunks that are left, whatever becomes of the agent meanwhile. -/
theorem exhausts_left {es : List Echo} {cs : List String}
    (h : Exhausts (.running session birth text said left rested) es cs) : cs = left := by
  induction left generalizing rested es cs with
  | nil =>
    cases h with
    | spent => rfl
    | pause hpull => cases hpull
    | chunk hpull => cases hpull
  | cons piece rest ih =>
    rcases h.cons with ⟨-, es', hrested⟩ | ⟨es', cs', rfl, hrest⟩
    · -- after its pause it gives the chunk
      rcases hrested.cons with ⟨hfalse, -⟩ | ⟨es'', cs', rfl, hrest⟩
      · cases hfalse
      · rw [ih hrest]
    · rw [ih hrest]

/-- An agent that can wait gives the next chunk, or pauses once before it. -/
theorem pull_of_usable (hdelay : ∀ kind, e.delay ≠ .unusable kind) (rested : Bool) :
    (e.pull (.running session birth text said (piece :: rest) rested)).2 =
        (.running session birth text said rest false, .chunk piece) ∨
      rested = false ∧ (e.pull (.running session birth text said (piece :: rest) rested)).2 =
        (.running session birth text said (piece :: rest) true, .pause) := by
  have hspeaks : Speaks e session birth text said piece rest rested
      (e.pull (.running session birth text said (piece :: rest) rested)) := speaks_pull rested
  generalize e.pull _ = r at hspeaks
  cases hspeaks with
  | failed hkind => exact absurd hkind (hdelay _)
  | pause => exact .inr ⟨rfl, rfl⟩
  | chunk => exact .inl rfl

theorem exhausts_of_chunk {stream next : Stream} {es : List Echo} {cs : List String}
    (hpull : (e.pull stream).2 = (next, .chunk piece)) (h : Exhausts next es cs) :
    Exhausts stream (e :: es) (piece :: cs) := .chunk (by rw [hpull]) (by rwa [hpull])

/-- A response that was settled comes to its end after two pulls a chunk and one more, by agents that can wait. -/
theorem exhausts_take {es : List Echo} (hdelay : ∀ e ∈ es, ∀ kind, e.delay ≠ .unusable kind)
    (hlength : 2 * left.length < es.length) :
    ∃ n, Exhausts (.running session birth text said left false) (es.take n) left := by
  induction left generalizing es with
  | nil =>
    obtain ⟨e, es, rfl⟩ := List.exists_cons_of_length_pos hlength
    exact ⟨1, .spent (by simp) rfl⟩
  | cons piece rest ih =>
    obtain ⟨e, e', es, rfl⟩ : ∃ e e' es', es = e :: e' :: es' := by
      match es, hlength with
      | e :: e' :: es', _ => exact ⟨e, e', es', rfl⟩
    simp only [List.length_cons] at hlength
    obtain ⟨he, hes⟩ := List.forall_mem_cons.1 hdelay
    obtain ⟨he', hes'⟩ := List.forall_mem_cons.1 hes
    rcases pull_of_usable he false with hchunk | ⟨-, hpause⟩
    · obtain ⟨n, hn⟩ := ih hes (by simp only [List.length_cons]; omega)
      exact ⟨n + 1, exhausts_of_chunk hchunk hn⟩
    · obtain ⟨n, hn⟩ := ih hes' (by omega)
      -- after its pause it gives the chunk
      have hchunk : (e'.pull (.running session birth text said (piece :: rest) true)).2 =
          (.running session birth text said rest false, .chunk piece) :=
        (pull_of_usable he' true).resolve_right fun h => nomatch h.1
      exact ⟨n + 2, .pause (by rw [hpause]) (by rw [hpause]; exact exhausts_of_chunk hchunk hn)⟩

end

/-! ## What a response gives -/

section

variable {e : Echo} {session : String} {birth : Nat} {turns : List Json}

/-- A response that is pulled first goes on as one that was settled then. -/
theorem pull_fresh (h : Assoc.get? session e.sessions = some ⟨birth, turns⟩) (text : String) :
    e.pull (.fresh session text) = e.pull (.running session birth text (reply (turns.length + 1) text)
      (chunks (reply (turns.length + 1) text)) false) := by
  simp [pull, h]

/-- Two responses of which the same comes when they are pulled first give the same chunks. -/
theorem Exhausts.congr {stream stream' : Stream} {es : List Echo} {cs : List String}
    (h : Exhausts stream (e :: es) cs) (hpull : e.pull stream' = e.pull stream) (hended : stream' ≠ .ended) :
    Exhausts stream' (e :: es) cs := by
  cases h with
  | spent _ hover => exact .spent hended (by rw [hpull, hover])
  | pause hpause hrest => exact .pause (by rw [hpull, hpause]) (by rwa [hpull])
  | chunk hchunk hrest => exact .chunk (by rw [hpull, hchunk]) (by rwa [hpull])

end

/-- **What a response gives is its text, cut after every space.** The text counts the turns that the session had when
the response was pulled first, and there is one way to cut it. Whatever becomes of the agent meanwhile, a response that
is pulled to its end gives these chunks, and it comes to its end as long as the agent can wait. -/
theorem chunks_canonical {e : Echo} {session : String} {turns : List Json} (h : e.history session = .ok turns)
    (text : String) :
    let said := "[turn " ++ toString (turns.length + 1) ++ "] You said: " ++ text
    ∃ cs, (Cut said cs ∧ ∀ cs', Cut said cs' → cs' = cs) ∧
      (∀ es cs', Exhausts (.fresh session text) (e :: es) cs' → cs' = cs) ∧
      ∀ es, (∀ e' ∈ e :: es, ∀ kind, e'.delay ≠ .unusable kind) → 2 * cs.length ≤ es.length →
        ∃ n, Exhausts (.fresh session text) (e :: es.take n) cs := by
  intro said
  obtain ⟨birth, hsession⟩ := history_eq_ok.1 h
  have hcut : Cut said (chunks said) := cut_chunks said
  have hpull : e.pull (.fresh session text) = e.pull (.running session birth text said (chunks said) false) :=
    pull_fresh hsession text
  refine ⟨chunks said, ⟨hcut, fun cs' hcut' => hcut'.unique hcut⟩, fun es cs' hgiven => ?_,
    fun es hdelay hlength => ?_⟩
  · exact exhausts_left (hgiven.congr hpull.symm (by simp))
  · have hends : ∃ n, Exhausts (.running session birth text said (chunks said) false) ((e :: es).take n)
        (chunks said) := exhausts_take hdelay (by rw [List.length_cons]; omega)
    obtain ⟨n, hn⟩ := hends
    cases n with
    | zero => exact nomatch hn
    | succ n => exact ⟨n, Exhausts.congr hn hpull (by simp)⟩

/-- An agent that pauses before each chunk, with one session without turns. -/
def spaciousAgent : Echo := (new .pause).begin "s"

/-- A text that begins and ends with spaces, and holds two in a row and a tab, in chunks. -/
def spaciousChunks : List String := ["[turn ", "1] ", "You ", "said: ", " ", "a ", " ", "b\tc ", ""]

/-- A response to it is pulled to its end, and its chunks are its text, cut. -/
theorem spacious_canonical :
    (∃ n, Exhausts (.fresh "s" " a  b\tc ") (List.replicate n spaciousAgent) spaciousChunks) ∧
      Cut "[turn 1] You said:  a  b\tc " spaciousChunks := by
  have hhistory : spaciousAgent.history "s" = .ok [] := rfl
  have hchunks : chunks "[turn 1] You said:  a  b\tc " = spaciousChunks := by decide
  obtain ⟨cs, ⟨hcut, hunique⟩, -, hends⟩ := chunks_canonical hhistory " a  b\tc "
  obtain rfl : spaciousChunks = cs := hunique _ (hchunks ▸ cut_chunks _)
  obtain ⟨n, hn⟩ := hends (List.replicate 18 spaciousAgent)
    (fun e he kind => by obtain rfl := List.eq_of_mem_replicate (n := 19) he; nofun) (by decide)
  rw [List.take_replicate, ← List.replicate_succ] at hn
  exact ⟨⟨_, hn⟩, hcut⟩

end ChatRelay.Echo
