import ChatRelay.Proofs.Yaml.Scalars

/-!
# The tokens of a sheet

- `Lexer.Wrote`: what a lexer has written, with slots that are all its own;
- `Lexer.Reaches`: running a lexer comes to the same as running another one that has less before it;
- `Lexer.Resting`, `Lexer.Placed`: a lexer in front of a gap, and one at the token behind it;
- `Lexer.reaches_entry`, `Lexer.reaches_entries`, `Lexer.reaches_section`: what is written for the parts of a sheet;
- `Sheet.tokens_of_text`: the tokens of the text of a sheet are those of the sheet.
-/

namespace ChatRelay.Yaml

open AgentLine (joinLines)

/-! ## Words -/

section Words

open Token.Lexer (isNameChar isIndicator)

theorem isNameChar_bounds {c : Char} (h : isNameChar c = true) : 45 ≤ c.toNat ∧ c.toNat ≤ 122 := by
  have hletters : c.isAlphanum = (decide ('A'.val ≤ c.val ∧ c.val ≤ 'Z'.val) ||
      decide ('a'.val ≤ c.val) && decide (c.val ≤ 'z'.val) || ('0'.val ≤ c.val && c.val ≤ '9'.val)) := rfl
  simp only [isNameChar, hletters, Bool.or_eq_true, Bool.and_eq_true, decide_eq_true_eq, UInt32.le_iff_toNat_le] at h
  have hv : c.val.toNat = c.toNat := rfl
  rcases h with (h | rfl) | rfl
  · simp only [hv] at h
    simp at h
    omega
  · decide
  · decide

theorem isInLine_of_isNameChar {c : Char} (h : isNameChar c = true) : isInLine c = true := by
  have hb := isNameChar_bounds h
  have hlf : c ≠ '\n' := fun he => by subst he; exact absurd h (by decide)
  have hcr : c ≠ '\r' := fun he => by subst he; exact absurd h (by decide)
  simp [isInLine, Token.isAllowed, isBreak, hlf, hcr]
  omega

theorem isIndicator_of_isNameChar {c : Char} (h : isNameChar c = true) (hd : c ≠ '-') : isIndicator c = false := by
  have hl : ("-?:,[]\x7b\x7d#&*!|>'\"%@".toList.all fun x => x = '-' || !isNameChar x) = true := by decide
  have hb := isNameChar_bounds h
  have hm : c ∉ "-?:,[]\x7b\x7d#&*!|>'\"%@".toList := fun hm => by
    have := List.all_eq_true.mp hl c hm
    simp [hd, h] at this
  have hgrave : c.toNat ≠ 96 := fun he => by
    have hc : c = Char.ofNat 96 := by rw [← he, Char.ofNat_toNat]
    rw [hc] at h
    exact absurd h (by decide)
  simp only [isIndicator, Bool.or_eq_false_iff, decide_eq_false_iff_not]
  exact ⟨by simpa using hm, hgrave⟩

namespace Word

variable (w : Word)

theorem isNameChar_first : isNameChar w.first = true := by
  have := w.isName
  simp only [List.all_cons, Bool.and_eq_true] at this
  exact this.1

theorem isNameChar_of_mem {x : Char} (hx : x ∈ w.chars) : isNameChar x = true :=
  List.all_eq_true.mp w.isName x hx

theorem isRun_chars : isRun w.chars = true := by
  have hne : ∀ c : Char, isNameChar c = false → ∀ x ∈ w.chars, x ≠ c := fun c hc x hx he => by
    have := w.isNameChar_of_mem hx
    rw [he, hc] at this
    cases this
  simp only [isRun, Bool.and_eq_true, List.all_eq_true, decide_eq_true_eq]
  refine ⟨⟨rfl, fun x hx => ⟨⟨isInLine_of_isNameChar (w.isNameChar_of_mem hx), ?_⟩, ?_⟩⟩, fun hl => ?_⟩
  · exact hne ' ' (by decide) x hx
  · exact hne '\t' (by decide) x hx
  · exact hne ':' (by decide) ':' (List.mem_of_getLast? hl) rfl

theorem isFront_chars : isFront w.chars = true := by
  have hb : w.first ≠ byteOrderMark := fun he => by
    have := isNameChar_bounds w.isNameChar_first
    rw [he] at this
    exact absurd this (by decide)
  simp [isFront, chars, hb, isIndicator_of_isNameChar w.isNameChar_first w.noDash]

theorem atMark_chars (cs : List Char) : atMark (w.chars ++ cs) = false := by
  have hd := w.noDash
  have hp : w.first ≠ '.' := fun he => by
    have := w.isNameChar_first
    rw [he] at this
    exact absurd this (by decide)
  simp only [chars, List.cons_append]
  unfold atMark
  split <;> simp_all

end Word

/-- A run that can stand at the front of plain text is a token. -/
theorem opensToken_of_isFront {run cs : List Char} (hr : isRun run = true) (hf : isFront run = true) :
    opensToken (run ++ cs) := by
  cases run with
  | nil => exact absurd rfl (isRun_ne_nil hr)
  | cons x run =>
    intro y hy
    cases hy
    have hx := isRun_inLine hr x List.mem_cons_self
    refine ⟨hx.2.1, ?_, ?_, isBreak_of_isInLine hx.1⟩
    · rintro rfl
      have hi : isIndicator '#' = true := by decide
      simp [isFront, hi] at hf
    · rintro rfl
      exact absurd hf (by simp [isFront])

end Words

namespace Token.Lexer

/-! ## What a lexer has written -/

/-- A lexer has written tokens, and every slot that it has left or filled is one of its own. -/
structure Wrote (l : Lexer) (out : List Token) : Prop where
  output : l.output = out
  slots : ∀ n, Token.slot n ∈ l.tokens → n < l.slots
  filled : ∀ e ∈ l.filled, e.1 < l.slots

/-- The marks that a token stands for once slots are filled. -/
def marks (filled : List (Nat × Bool)) : Token → List Token
  | .slot n =>
    match Assoc.get? n filled with
    | some true => [.blockMapping, .key]
    | some false => [.key]
    | none => []
  | t => [t]

theorem output_eq (l : Lexer) : l.output = l.tokens.reverse.flatMap (marks l.filled) := by
  unfold output
  congr 1

theorem marks_of_not_slot {filled : List (Nat × Bool)} {t : Token} (h : ∀ n, t ≠ .slot n) : marks filled t = [t] := by
  cases t with
  | slot n => exact absurd rfl (h n)
  | _ => rfl

theorem Wrote.push {l l' : Lexer} {out : List Token} {t : Token} (h : Wrote l out) (ht : ∀ n, t ≠ .slot n)
    (htokens : l'.tokens = t :: l.tokens) (hslots : l'.slots = l.slots) (hfilled : l'.filled = l.filled) :
    Wrote l' (out ++ [t]) where
  output := by
    rw [output_eq, htokens, hfilled, List.reverse_cons, List.flatMap_append, ← output_eq, h.output]
    simp [marks_of_not_slot ht]
  slots n hn := by
    rw [htokens] at hn
    rw [hslots]
    exact h.slots n ((List.mem_cons.mp hn).resolve_left fun he => ht n he.symm)
  filled := by rw [hfilled, hslots]; exact h.filled

theorem Wrote.same {l l' : Lexer} {out : List Token} (h : Wrote l out) (htokens : l'.tokens = l.tokens)
    (hslots : l'.slots = l.slots) (hfilled : l'.filled = l.filled) : Wrote l' out where
  output := by rw [output_eq, htokens, hfilled, ← output_eq, h.output]
  slots := by rw [htokens, hslots]; exact h.slots
  filled := by rw [hfilled, hslots]; exact h.filled

/-- The marks in front of a key. -/
def keyMarks (isNew : Bool) : List Token := if isNew then [.blockMapping, .key] else [.key]

/-- A text behind a new slot becomes a key once the slot is filled. -/
theorem Wrote.key {l l' : Lexer} {out : List Token} {t : Token} {isNew : Bool} (h : Wrote l out)
    (ht : ∀ n, t ≠ .slot n) (htokens : l'.tokens = t :: .slot l.slots :: l.tokens)
    (hslots : l'.slots = l.slots + 1) (hfilled : l'.filled = (l.slots, isNew) :: l.filled) :
    Wrote l' (out ++ (keyMarks isNew ++ [t])) where
  output := by
    -- The marks of older slots are as before: the new one is none of theirs.
    have hold : l.tokens.reverse.flatMap (marks ((l.slots, isNew) :: l.filled)) = out := by
      rw [← h.output, output_eq, List.flatMap_def, List.flatMap_def]
      congr 1
      refine List.map_congr_left fun u hu => ?_
      cases u with
      | slot n =>
        have hn := h.slots n (List.mem_reverse.mp hu)
        simp [marks, Assoc.get?_cons, show l.slots ≠ n by omega]
      | _ => rfl
    have hnew : marks ((l.slots, isNew) :: l.filled) (.slot l.slots) = keyMarks isNew := by
      cases isNew <;> simp [marks, keyMarks]
    rw [output_eq, htokens, hfilled, List.reverse_cons, List.reverse_cons, List.flatMap_append, List.flatMap_append,
      hold]
    simp [marks_of_not_slot ht, hnew]
  slots n hn := by
    rw [htokens] at hn
    rw [hslots]
    rcases List.mem_cons.mp hn with he | hn
    · exact absurd he.symm (ht n)
    rcases List.mem_cons.mp hn with he | hn
    · cases he
      omega
    · have := h.slots n hn
      omega
  filled e he := by
    rw [hfilled] at he
    rw [hslots]
    rcases List.mem_cons.mp he with rfl | he
    · exact Nat.lt_succ_self _
    · have := h.filled e he
      omega

/-! ## Runs -/

/-- Running a lexer comes to the same as running another one, as long as there is fuel for all that is left. -/
def Reaches (l l' : Lexer) : Prop :=
  ∀ fuel, l.cursor.rest.length < fuel → ∃ fuel', l'.cursor.rest.length < fuel' ∧ run fuel l = run fuel' l'

theorem Reaches.trans {l l' l'' : Lexer} (h : Reaches l l') (h' : Reaches l' l'') : Reaches l l'' := by
  intro fuel hf
  obtain ⟨fuel', hf', he⟩ := h fuel hf
  obtain ⟨fuel'', hf'', he'⟩ := h' fuel' hf'
  exact ⟨fuel'', hf'', he.trans he'⟩

theorem Reaches.refl (l : Lexer) : Reaches l l := fun fuel hf => ⟨fuel, hf, rfl⟩

theorem dropStale_nil {l : Lexer} (h : l.pending = []) : l.dropStale = some l := by
  cases l
  cases h
  simp [dropStale]

theorem unwindTo_of_le {column : Int} {l : Lexer} (h : l.indent ≤ column) (outer : List Int) :
    unwindTo column outer l = l := by
  cases outer with
  | nil => rfl
  | cons i outer => simp [unwindTo, Int.not_lt.mpr h]

theorem unwind_of_le {column : Int} {l : Lexer} (h : l.indent ≤ column) : l.unwind column = l := by
  unfold unwind
  split
  · exact unwindTo_of_le h _
  · rfl

theorem toNext_here {l : Lexer} (h : opensToken l.cursor.rest) : l.toNext = l := by
  have hskip : l.cursor.skip (· = ' ') = l.cursor :=
    Cursor.skip_spaces (n := 0) rfl fun hx => (h ' ' hx).1 rfl
  have hhash : l.cursor.rest.head? ≠ some '#' := fun hx => (h '#' hx).2.1 rfl
  have hbom : l.cursor.rest.head? ≠ some byteOrderMark := fun hx => (h _ hx).2.2.1 rfl
  have hbreak : l.cursor.lineBreak? = none := Cursor.lineBreak?_none fun x hx => (h x hx).2.2.2
  simp [toNext, Cursor.peek?, hbom, skipGaps, hskip, hhash, hbreak, moveTo]

/-! ## Between tokens and at them -/

/-- What a lexer knows outside brackets when no key is pending. -/
structure Calm (l : Lexer) (out : List Token) (indent : Int) (outer : List Int) : Prop where
  wrote : Wrote l out
  flow : l.flow = 0
  pending : l.pending = []
  indent : l.indent = indent
  outer : l.outer = outer

/-- A lexer is in front of a gap with the end of a line in it, behind which a text begins at a column. -/
structure Resting (l : Lexer) (out : List Token) (indent : Int) (outer : List Int) (rest : List Char) (column : Nat) :
    Prop extends Calm l out indent outer where
  ahead : ∃ rs k, l.cursor.rest = gap rs k ++ rest ∧ (rs ≠ [] → k = column) ∧
    (rs = [] → l.keyAllowed = true ∧ l.cursor.column + k = column)

/-- A lexer is at a place where a key may begin. -/
structure Placed (l : Lexer) (out : List Token) (indent : Int) (outer : List Int) (rest : List Char) (column : Nat) :
    Prop extends Calm l out indent outer where
  rest : l.cursor.rest = rest
  column : l.cursor.column = column
  allowed : l.keyAllowed = true

section Places

variable {l : Lexer} {out : List Token} {indent : Int} {outer : List Int} {rest : List Char} {column : Nat}

/-- The lexer goes over a gap and ends the collections that are indented more than the next token. -/
theorem reaches_unwound {m m' : Lexer} (hnext : l.toNext = m) (hless : m.cursor.rest.length ≤ l.cursor.rest.length)
    (ho : opensToken m.cursor.rest) (hp : m.pending = []) (hu : m.unwind m.cursor.column = m')
    (hc : m'.cursor = m.cursor) (hp' : m'.pending = []) (hi : m'.indent ≤ m'.cursor.column) : Reaches l m' := by
  intro fuel hfuel
  refine ⟨fuel, by rw [hc]; omega, ?_⟩
  obtain ⟨fuel, rfl⟩ : ∃ n, fuel = n + 1 := ⟨fuel - 1, by omega⟩
  have hm' : m'.toNext = m' := toNext_here (by rw [hc]; exact ho)
  rw [run, run, hnext, hm', dropStale_nil hp, dropStale_nil hp']
  simp only [Option.bind_eq_bind, Option.bind_some, hu, unwind_of_le hi]

/-- The next token of a lexer in front of a gap. -/
theorem toNext_resting (h : Resting l out indent outer rest column) (ho : opensToken rest) :
    ∃ c : Cursor, c.rest = rest ∧ c.column = column ∧ c.rest.length ≤ l.cursor.rest.length ∧
      l.toNext = { l with cursor := c, keyAllowed := true } := by
  obtain ⟨rs, k, hrest, hne, hnil⟩ := h.ahead
  obtain ⟨c, hc, hcol, hnext⟩ := toNext_gap h.flow hrest ho
  have hallowed : (l.keyAllowed || !rs.isEmpty) = true := by
    rcases Decidable.em (rs = []) with he | he
    · simp [(hnil he).1]
    · simp [he]
  have hcolumn : c.column = column := by
    rw [hcol]
    split
    · next he => exact (hnil he).2
    · next he => rw [hne he, Nat.zero_add]
  rw [hallowed] at hnext
  exact ⟨c, hc, hcolumn, by rw [hc, hrest, List.length_append]; omega, hnext⟩

/-- The lexer goes to a token that is indented as much as the collection around it, or more. -/
theorem reaches_placed (h : Resting l out indent outer rest column) (ho : opensToken rest) (hi : indent ≤ column) :
    ∃ m, Reaches l m ∧ Placed m out indent outer rest column := by
  obtain ⟨c, hc, hcol, hless, hnext⟩ := toNext_resting h ho
  have hle : ({ l with cursor := c, keyAllowed := true } : Lexer).indent ≤ c.column := by
    rw [hcol, ← h.indent] at *
    exact hi
  exact ⟨_, reaches_unwound hnext hless (by rw [hc]; exact ho) h.pending (unwind_of_le hle) rfl h.pending hle,
    ⟨h.wrote.same rfl rfl rfl, h.flow, h.pending, h.indent, h.outer⟩, hc, hcol, rfl⟩

/-- The lexer goes to a token at the margin, which ends an indented collection. -/
theorem reaches_margin (h : Resting l out indent [0, -1] rest 0) (ho : opensToken rest) (hi : 0 < indent) :
    ∃ m, Reaches l m ∧ Placed m (out ++ [.blockEnd]) 0 [-1] rest 0 := by
  obtain ⟨c, hc, hcol, hless, hnext⟩ := toNext_resting h ho
  have hu : ({ l with cursor := c, keyAllowed := true } : Lexer).unwind c.column =
      { l with cursor := c, keyAllowed := true, tokens := .blockEnd :: l.tokens, indent := 0, outer := [-1] } := by
    simp [unwind, h.flow, h.outer, unwindTo, push, h.indent, hcol, hi]
  refine ⟨_, reaches_unwound hnext hless (by rw [hc]; exact ho) h.pending hu rfl h.pending ?_,
    ⟨?_, h.flow, h.pending, rfl, rfl⟩, hc, hcol, rfl⟩
  · rw [hcol]
    exact Int.le_refl _
  · exact h.wrote.push (by simp) rfl rfl rfl

end Places

/-! ## One token -/

section Tokens

variable {l l' : Lexer} {c : Char} {cs : List Char}

/-- Plain text begins where a run stands that can be at its front. -/
theorem lexAt_plain {run r : List Char} (hflow : l.flow = 0) (hrest : l.cursor.rest = run ++ r)
    (hrun : isRun run = true) (hfront : isFront run = true) (hmark : l.cursor.column = 0 → atMark (run ++ r) = false)
    (hc : run ++ r = c :: cs) : l.lexAt c cs = l.plainScalar := by
  obtain ⟨run, rfl⟩ : ∃ more, run = c :: more := by
    cases run with
    | nil => exact absurd rfl (isRun_ne_nil hrun)
    | cons x more => exact ⟨more, by rw [List.cons_append] at hc; cases hc; rfl⟩
  have hcs : cs = run ++ r := by simpa using hc.symm
  have hin := isRun_inLine hrun c List.mem_cons_self
  have hb := isBreak_of_isInLine hin.1
  simp only [isFront, Bool.and_eq_true, Bool.or_eq_true, decide_eq_true_eq, Bool.not_eq_true'] at hfront
  -- Whatever means something as a first character is followed by more of the run.
  have hkind : isIndicator c = false ∨ (atSpace cs = false ∧ (c = '-' ∨ c = '?' ∨ c = ':')) := by
    rcases hfront.2 with hi | ⟨hne, hd⟩
    · exact .inl hi
    · cases run with
      | nil => exact absurd hne (by simp)
      | cons x run =>
        have hx := isRun_inLine hrun x (by simp)
        exact .inr ⟨by simp [hcs, atSpace, hx.2.1, hx.2.2, isBreak_of_isInLine hx.1], by simpa [or_assoc] using hd⟩
  have hbegins : l.beginsPlain = true := by
    rcases hkind with hi | ⟨hs, hd⟩
    · simp [beginsPlain, hrest, atSpace, hin.2.1, hin.2.2, hb, hi]
    · rcases hd with rfl | rfl | rfl <;> simp [beginsPlain, hrest, ← hcs, hs, hflow]
  have hmark' : l.cursor.column = 0 → atMark (c :: cs) = false := by rw [← hc]; exact hmark
  unfold lexAt
  rcases hkind with hi | ⟨hs, hd⟩
  · have hne : ∀ x : Char, isIndicator x = true → c ≠ x := fun x hx he => by rw [he, hx] at hi; cases hi
    simp [hne '%' (by decide), hne '-' (by decide), hne '[' (by decide), hne ']' (by decide), hne '{' (by decide),
      hne '}' (by decide), hne ',' (by decide), hne '?' (by decide), hne ':' (by decide), hne '*' (by decide),
      hne '&' (by decide), hne '!' (by decide), hne '|' (by decide), hne '>' (by decide), hne '\'' (by decide),
      hne '"' (by decide), hbegins]
    exact fun _ hcol hm => absurd hm (by simp [hmark' hcol])
  · rcases hd with rfl | rfl | rfl <;> simp [hs, hflow, hbegins]
    exact fun hcol hm => absurd hm (by simp [hmark' hcol])

theorem lexAt_colon (hflow : l.flow = 0) (hs : atSpace cs = true) : l.lexAt ':' cs = l.colon := by
  simp [lexAt, hs, hflow]

theorem lexAt_quote (isDouble : Bool) : l.lexAt (Writing.quote isDouble) cs = l.quotedScalar isDouble := by
  cases isDouble <;> simp [lexAt, Writing.quote]

/-- The lexer takes the token that it stands at. -/
theorem reaches_token (hrest : l.cursor.rest = c :: cs) (ho : opensToken l.cursor.rest) (hs : l.dropStale = some l)
    (hi : l.indent ≤ l.cursor.column) (ht : l.lexAt c cs = some l')
    (hless : l'.cursor.rest.length < l.cursor.rest.length) : Reaches l l' := by
  intro fuel hfuel
  obtain ⟨fuel, rfl⟩ : ∃ n, fuel = n + 1 := ⟨fuel - 1, by omega⟩
  refine ⟨fuel, by omega, ?_⟩
  rw [run, toNext_here ho, hs]
  simp only [Option.bind_eq_bind, Option.bind_some, unwind_of_le hi, hrest, ht]

end Tokens

/-! ## Keys and values -/

section Parts

variable {l : Lexer} {out : List Token} {indent : Int} {outer : List Int} {column : Nat}

/-- The lexer behind a word that may be a key. -/
def afterWord (l : Lexer) (w : Word) : Lexer :=
  { l with
    cursor := l.cursor.advance w.chars.length
    tokens := .scalar (Scalar.numbers w.chars) true :: .slot l.slots :: l.tokens
    slots := l.slots + 1
    keyAllowed := false
    pending :=
      [(0, ⟨l.slots, l.flow = 0 && l.indent = l.cursor.column, l.cursor.index, l.cursor.line, l.cursor.column⟩)] }

/-- The lexer behind the colon after a key. -/
def afterColon (l : Lexer) (w : Word) : Lexer :=
  let isNew : Bool := l.indent < l.cursor.column
  { l with
    cursor := (l.cursor.advance w.chars.length).next
    tokens := .value :: .scalar (Scalar.numbers w.chars) true :: .slot l.slots :: l.tokens
    slots := l.slots + 1
    filled := (l.slots, isNew) :: l.filled
    indent := if isNew then l.cursor.column else l.indent
    outer := if isNew then l.indent :: l.outer else l.outer
    keyAllowed := false
    pending := [] }

variable {w : Word} {r : List Char}

theorem reaches_afterWord (h : Placed l out indent outer (w.chars ++ ':' :: r) column) (hi : indent ≤ column)
    (hr : atSpace r = true) : Reaches l (afterWord l w) := by
  have hne : w.chars ++ ':' :: r = w.first :: (w.more ++ ':' :: r) := rfl
  have hhash : w.chars.head? ≠ some '#' := fun he => by
    have hf : w.first = '#' := Option.some.inj he
    exact absurd (hf ▸ w.isNameChar_first) (by decide)
  have hplain := Scalar.plain_key (l.indent + 1).toNat h.rest w.isRun_chars hhash hr
  have hrest : l.cursor.rest = w.first :: (w.more ++ ':' :: r) := h.rest.trans hne
  refine reaches_token hrest ?_ (dropStale_nil h.pending) ?_ ?_ ?_
  · rw [h.rest]
    exact opensToken_of_isFront w.isRun_chars w.isFront_chars
  · rw [h.indent, h.column]
    exact hi
  · rw [lexAt_plain h.flow h.rest w.isRun_chars w.isFront_chars (fun _ => w.atMark_chars _) hne]
    simp [plainScalar, savePending, h.allowed, dropPending, h.pending, h.flow, hplain, push, moveTo, Assoc.put,
      afterWord]
  · show (l.cursor.advance w.chars.length).rest.length < _
    exact (Cursor.past_run h.rest w.isRun_chars).2

theorem reaches_colon (h : Placed l out indent outer (w.chars ++ ':' :: r) column) (hi : indent ≤ column)
    (hr : atSpace r = true) : Reaches (afterWord l w) (afterColon l w) := by
  obtain ⟨hp, -⟩ := Cursor.past_run h.rest w.isRun_chars
  have hnext := Cursor.past_next hp.rest (by decide)
  have hrest : (afterWord l w).cursor.rest = ':' :: r := hp.rest
  have hcolon : opensToken (':' :: r) := by
    intro x hx
    cases hx
    decide
  refine reaches_token hrest (by rw [hrest]; exact hcolon) ?_ ?_ ?_ ?_
  · have hshort := w.isShort
    have hindex : (l.cursor.advance w.chars.length).index ≤ l.cursor.index + 1024 := by
      rw [hp.index, Word.chars, List.length_cons]
      omega
    simp [dropStale, afterWord, hp.line, Nat.not_lt.mpr hindex]
  · show l.indent ≤ ((l.cursor.advance w.chars.length).column : Int)
    have := hp.column_le
    rw [h.column] at this
    rw [h.indent]
    omega
  · rw [lexAt_colon (l := afterWord l w) h.flow hr]
    by_cases hnew : l.indent < l.cursor.column <;>
      simp [colon, afterWord, h.flow, isDeeper, indentTo, push, moveTo, afterColon, Assoc.erase, hnew]
  · rw [hrest]
    show (l.cursor.advance w.chars.length).next.rest.length < _
    rw [hnext.rest, List.length_cons]
    exact Nat.lt_succ_self _

/-- The lexer reads a key with its colon. -/
theorem reaches_key (h : Placed l out indent outer (w.chars ++ ':' :: r) column) (hi : indent ≤ column)
    (hr : atSpace r = true) :
    ∃ m, Reaches l m ∧
      Calm m (out ++ (keyMarks (indent < column) ++ [.scalar (Scalar.numbers w.chars) true, .value])) column
        (if indent < column then indent :: outer else outer) ∧
      m.cursor.rest = r ∧ m.keyAllowed = false ∧ column < m.cursor.column := by
  obtain ⟨hp, -⟩ := Cursor.past_run h.rest w.isRun_chars
  have hnext := Cursor.past_next hp.rest (by decide)
  refine ⟨afterColon l w, (reaches_afterWord h hi hr).trans (reaches_colon h hi hr), ?_, hnext.rest, rfl, ?_⟩
  · refine ⟨?_, h.flow, rfl, ?_, ?_⟩
    · have hk : Wrote
          { afterColon l w with tokens := .scalar (Scalar.numbers w.chars) true :: .slot l.slots :: l.tokens }
          (out ++ (keyMarks (l.indent < l.cursor.column) ++ [.scalar (Scalar.numbers w.chars) true])) :=
        h.wrote.key (by simp) rfl rfl rfl
      have : Wrote (afterColon l w) _ := hk.push (t := .value) (by simp) rfl rfl rfl
      rw [h.indent, h.column] at this
      simpa [List.append_assoc] using this
    · simp only [afterColon, h.indent, h.column, decide_eq_true_eq]
      split <;> omega
    · simp only [afterColon, h.indent, h.outer, h.column, decide_eq_true_eq]
  · have hcol := hnext.column_eq (by decide)
    have := hp.column_le
    rw [h.column] at this
    show column < (l.cursor.advance w.chars.length).next.column
    rw [hcol, List.length_singleton]
    omega

theorem opensToken_writing (v : Writing) (cs : List Char) : opensToken (v.text ++ cs) := by
  cases v with
  | plain first more hrun hfront hmore =>
    rw [Writing.text, List.append_assoc]
    exact opensToken_of_isFront hrun hfront
  | quoted isDouble inner codes hs =>
    intro x hx
    cases hx
    cases isDouble <;> decide

/-- The lexer behind plain text where no key may begin. -/
def afterPlain (l : Lexer) : Lexer :=
  let p := Scalar.plain false (l.indent + 1).toNat l.cursor
  { l with
    cursor := p.cursor
    tokens := .scalar (Scalar.numbers p.text) true :: l.tokens
    keyAllowed := p.broken }

theorem plainScalar_value (hflow : l.flow = 0) (ha : l.keyAllowed = false) : l.plainScalar = some (afterPlain l) := by
  simp [plainScalar, savePending, ha, hflow, push, moveTo, afterPlain]

theorem quotedScalar_value {isDouble : Bool} {codes : List Nat} {c : Cursor} (ha : l.keyAllowed = false)
    (hq : Scalar.quoted isDouble l.cursor = some (codes, c)) :
    l.quotedScalar isDouble =
      some { l with cursor := c, tokens := .scalar codes false :: l.tokens, keyAllowed := false } := by
  simp [quotedScalar, hq, content, savePending, ha, push, moveTo]

variable {tail : Remark} {below : List Remark} {rest : List Char} {k : Nat}

/-- The lexer reads a value that it stands at, and comes to the gap behind it. -/
theorem reaches_writing {v : Writing} (h : Calm l out indent outer) (ha : l.keyAllowed = false)
    (hi : indent < l.cursor.column) (hcol : l.cursor.column ≠ 0)
    (hrest : l.cursor.rest = v.text ++ (gap (tail :: below) k ++ rest)) (happ : (tail.isApart || !v.isPlain) = true)
    (hk : k ≤ indent) (ho : opensToken rest) (hm : atMark rest = false) :
    ∃ m, Reaches l m ∧ Resting m (out ++ [.scalar v.codes v.isPlain]) indent outer rest k := by
  have hopens : opensToken l.cursor.rest := by
    rw [hrest]
    exact opensToken_writing v _
  have hle : l.indent ≤ l.cursor.column := by rw [h.indent]; omega
  cases v with
  | plain first more hrun hfront hmore =>
    have happ' : tail.isApart = true := by simpa [Writing.isPlain] using happ
    obtain ⟨rs', k', htext, hl, hless⟩ := Scalar.plain_writing (l.indent + 1).toNat hrest hrun hfront hmore
      (by rw [h.indent]; omega) (by rw [h.indent]; omega) happ' ho hm
    obtain ⟨x, cs, hx⟩ : ∃ x cs, first ++ (Writing.runs more ++ (gap (tail :: below) k ++ rest)) = x :: cs := by
      cases first with
      | nil => exact absurd rfl (isRun_ne_nil hrun)
      | cons x cs => exact ⟨x, _, rfl⟩
    have hrest' : l.cursor.rest = first ++ (Writing.runs more ++ (gap (tail :: below) k ++ rest)) := by
      rw [hrest, Writing.text, List.append_assoc]
    refine ⟨afterPlain l, reaches_token (hrest'.trans hx) hopens (dropStale_nil h.pending) hle ?_ hless,
      ⟨?_, h.flow, h.pending, h.indent, h.outer⟩, ?_⟩
    · rw [lexAt_plain h.flow hrest' hrun hfront (fun hzero => absurd hzero hcol) hx, plainScalar_value h.flow ha]
    · exact h.wrote.push (by simp) (by simp [afterPlain, htext, Writing.codes, Writing.isPlain]) rfl rfl
    · exact ⟨rs', k', hl.rest, fun hne => (hl.comment hne).1, fun hnil => by
        obtain ⟨rfl, hb, hc⟩ := hl.ended hnil
        exact ⟨hb, hc⟩⟩
  | quoted isDouble inner codes hs =>
    have hrest' : l.cursor.rest =
        Writing.quote isDouble :: (inner ++ Writing.quote isDouble :: (gap (tail :: below) k ++ rest)) := by
      rw [hrest]
      simp [Writing.text]
    have hquote : (gap (tail :: below) k ++ rest).head? ≠ some '\'' := fun he => by
      rcases head_gap he with hx | hx | hx | ⟨hx, -⟩
      · exact absurd hx (by decide)
      · exact absurd hx (by decide)
      · exact absurd hx (by decide)
      · exact absurd hx (by simp)
    obtain ⟨c, hq, hc⟩ := Scalar.quoted_spells hs hrest' hquote
    refine ⟨_, reaches_token hrest' hopens (dropStale_nil h.pending) hle
      ((lexAt_quote isDouble).trans (quotedScalar_value ha hq)) ?_, ⟨?_, h.flow, h.pending, h.indent, h.outer⟩, ?_⟩
    · simp only [hc, hrest', List.length_cons, List.length_append]
      omega
    · exact h.wrote.push (by simp) rfl rfl rfl
    · exact ⟨tail :: below, k, hc, fun _ => rfl, fun hnil => absurd hnil (by simp)⟩

/-- The lexer reads what stands on the line of a key, and comes to the gap behind it. -/
theorem reaches_value {value : Option (Nat × Writing)} (h : Calm l out indent outer) (ha : l.keyAllowed = false)
    (hi : indent < l.cursor.column) (hrest : l.cursor.rest = Entry.shown value ++ (gap (tail :: below) k ++ rest))
    (happ : (tail.isApart || value.any fun v => !v.2.isPlain) = true) (hk : value = none ∨ k ≤ indent)
    (ho : opensToken rest) (hm : atMark rest = false) :
    ∃ m, Reaches l m ∧ Resting m (out ++ Entry.valueTokens value) indent outer rest k := by
  cases value with
  | none =>
    refine ⟨l, .refl l, ⟨by simpa [Entry.valueTokens] using h.wrote, h.flow, h.pending, h.indent, h.outer⟩, ?_⟩
    exact ⟨tail :: below, k, hrest, fun _ => rfl, fun hnil => absurd hnil (by simp)⟩
  | some v =>
    obtain ⟨n, v⟩ := v
    rw [Entry.shown, List.append_assoc, ← gap_nil] at hrest
    have hopens := opensToken_writing v (gap (tail :: below) k ++ rest)
    obtain ⟨c, hc, hcol, hnext⟩ := toNext_gap h.flow hrest hopens
    rw [if_pos rfl] at hcol
    have hle : ({ l with cursor := c, keyAllowed := false } : Lexer).indent ≤ c.column := by
      show l.indent ≤ c.column
      rw [h.indent]
      omega
    have hnext' : l.toNext = { l with cursor := c, keyAllowed := false } := by
      rw [hnext, ha]
      rfl
    have hless : c.rest.length ≤ l.cursor.rest.length := by
      simp only [hc, hrest, List.length_append]
      omega
    have hreach : Reaches l { l with cursor := c, keyAllowed := false } :=
      reaches_unwound hnext' hless (by rw [hc]; exact hopens) h.pending (unwind_of_le hle) rfl h.pending hle
    obtain ⟨m, hm', hrm⟩ := reaches_writing (l := { l with cursor := c, keyAllowed := false })
      ⟨h.wrote.same rfl rfl rfl, h.flow, h.pending, h.indent, h.outer⟩ rfl (by show indent < (c.column : Int); omega)
      (by show c.column ≠ 0; omega) hc (by simpa using happ) (hk.resolve_left (by simp)) ho hm
    exact ⟨m, hreach.trans hm', hrm⟩

/-- The lexer reads an entry, and comes to the gap behind it. -/
theorem reaches_entry {e : Entry}
    (h : Placed l out indent outer
      (e.key.chars ++ ':' :: (Entry.shown e.value ++ (gap (e.tail :: e.below) k ++ rest))) column)
    (hi : indent ≤ column) (hk : e.value = none ∨ k ≤ column) (ho : opensToken rest) (hm : atMark rest = false) :
    ∃ m, Reaches l m ∧
      Resting m (out ++ ((if indent < column then [.blockMapping] else []) ++ e.tokens)) column
        (if indent < column then indent :: outer else outer) rest k := by
  have hspace : atSpace (Entry.shown e.value ++ (gap (e.tail :: e.below) k ++ rest)) = true := by
    have happ := e.apart
    cases hv : e.value with
    | none => exact atSpace_gap (by simpa [hv] using happ)
    | some v => simp [Entry.shown, List.replicate_succ, atSpace]
  obtain ⟨m, hm1, hcalm, hrest, ha, hcol⟩ := reaches_key h hi hspace
  obtain ⟨m', hm2, hr⟩ := reaches_value hcalm ha (by omega) hrest e.apart (by simpa using hk) ho hm
  refine ⟨m', hm1.trans hm2, ?_⟩
  have hout : out ++ (keyMarks (indent < column) ++ [.scalar (Scalar.numbers e.key.chars) true, .value]) ++
      Entry.valueTokens e.value = out ++ ((if indent < column then [.blockMapping] else []) ++ e.tokens) := by
    by_cases hlt : indent < column <;> simp [keyMarks, Entry.tokens, hlt]
  rwa [hout] at hr

end Parts

end Token.Lexer

/-! ## Sheets -/

/-- The spaces in front of the next entry at a column, none if there is none. -/
def Entry.lead (column : Nat) : List Entry → Nat
  | [] => 0
  | _ :: _ => column

/-- The text of entries at a column, from the first key on, and a text behind them. -/
def Entry.onward (column : Nat) : List Entry → List Char → List Char
  | [], r => r
  | e :: es, r =>
    e.key.chars ++ ':' :: (shown e.value ++ (gap (e.tail :: e.below) (lead column es) ++ onward column es r))

/-- The text of sections. -/
def Section.onward : List Section → List Char
  | [] => []
  | s :: ss =>
    s.heading.key.chars ++ ':' :: (gap (s.heading.tail :: s.heading.below) (Entry.lead s.column s.entries) ++
      Entry.onward s.column s.entries (onward ss))

theorem joinLines_append (xs ys : List (List Char)) : joinLines (xs ++ ys) = joinLines xs ++ joinLines ys := by
  simp [joinLines]

theorem joinLines_entry (column : Nat) (e : Entry) :
    joinLines (e.lines column) =
      List.replicate column ' ' ++ (e.key.chars ++ ':' :: (Entry.shown e.value ++ gap (e.tail :: e.below) 0)) := by
  simp [Entry.lines, gap, joinLines]

theorem gap_add (rs : List Remark) (k : Nat) : gap rs k = gap rs 0 ++ List.replicate k ' ' := by
  simp [gap]

theorem Entry.onward_eq (column : Nat) (es : List Entry) (r : List Char) :
    List.replicate (lead column es) ' ' ++ onward column es r = joinLines (es.flatMap (lines column)) ++ r := by
  induction es with
  | nil => rfl
  | cons e es ih =>
    rw [List.flatMap_cons, joinLines_append, List.append_assoc, ← ih, joinLines_entry, onward,
      gap_add _ (lead column es)]
    simp [lead, List.append_assoc]

theorem Section.onward_eq (ss : List Section) : onward ss = joinLines (ss.flatMap lines) := by
  induction ss with
  | nil => rfl
  | cons s ss ih =>
    rw [List.flatMap_cons, joinLines_append, ← ih, lines, joinLines_append, List.append_assoc, ← Entry.onward_eq,
      joinLines_entry, onward, gap_add _ (Entry.lead s.column s.entries), s.bare]
    simp [Entry.shown, List.append_assoc]

theorem Sheet.chars_eq (f : Sheet) : f.chars = gap f.above 0 ++ Section.onward f.sections := by
  rw [chars, lines, joinLines_append, Section.onward_eq]
  simp [gap]

theorem opensToken_key (w : Word) (cs : List Char) : opensToken (w.chars ++ cs) :=
  opensToken_of_isFront w.isRun_chars w.isFront_chars

theorem Entry.opens_onward (column : Nat) (es : List Entry) {r : List Char} (ho : opensToken r)
    (hm : atMark r = false) : opensToken (onward column es r) ∧ atMark (onward column es r) = false := by
  cases es with
  | nil => exact ⟨ho, hm⟩
  | cons e es => exact ⟨opensToken_key _ _, e.key.atMark_chars _⟩

theorem Section.opens_onward (ss : List Section) : opensToken (onward ss) ∧ atMark (onward ss) = false := by
  cases ss with
  | nil => exact ⟨by simp [onward, opensToken], rfl⟩
  | cons s ss => exact ⟨opensToken_key _ _, s.heading.key.atMark_chars _⟩

namespace Token.Lexer

variable {l : Lexer} {out : List Token} {outer : List Int}

/-- The lexer reads entries, of which one came before. -/
theorem reaches_entries {column : Nat} {es : List Entry} {r : List Char}
    (h : Resting l out column outer (Entry.onward column es r) (Entry.lead column es)) (ho : opensToken r)
    (hm : atMark r = false) :
    ∃ m, Reaches l m ∧ Resting m (out ++ es.flatMap Entry.tokens) column outer r 0 := by
  induction es generalizing l out with
  | nil => exact ⟨l, .refl l, by simpa [Entry.onward, Entry.lead] using h⟩
  | cons e es ih =>
    obtain ⟨l1, h1, hp⟩ := reaches_placed h (Entry.opens_onward _ _ ho hm).1 (Int.le_refl _)
    have hlead : Entry.lead column es ≤ column := by cases es <;> simp [Entry.lead]
    have hp : Placed l1 out column outer (Entry.onward column (e :: es) r) column := hp
    obtain ⟨l2, h2, hr⟩ := reaches_entry hp (Int.le_refl _) (.inr hlead) (Entry.opens_onward _ _ ho hm).1
      (Entry.opens_onward _ _ ho hm).2
    rw [if_neg (Int.lt_irrefl _), if_neg (Int.lt_irrefl _), List.nil_append] at hr
    obtain ⟨l3, h3, hr'⟩ := ih hr
    exact ⟨l3, h1.trans (h2.trans h3), by simpa [List.append_assoc] using hr'⟩

/-- The lexer reads a section at the margin, and comes to what is behind it. -/
theorem reaches_section {s : Section} {ss : List Section} {indent : Int}
    (h : Placed l out indent outer (Section.onward (s :: ss)) 0)
    (hi : indent = -1 ∧ outer = [] ∨ indent = 0 ∧ outer = [-1]) :
    ∃ m, Reaches l m ∧
      Placed m (out ++ ((if indent < 0 then [.blockMapping] else []) ++ s.tokens)) 0 [-1] (Section.onward ss) 0 := by
  have hopens := Section.opens_onward ss
  have hinner : opensToken (Entry.onward s.column s.entries (Section.onward ss)) ∧
      atMark (Entry.onward s.column s.entries (Section.onward ss)) = false :=
    Entry.opens_onward s.column s.entries hopens.1 hopens.2
  have hplaced : Placed l out indent outer (s.heading.key.chars ++ ':' :: (Entry.shown s.heading.value ++
      (gap (s.heading.tail :: s.heading.below) (Entry.lead s.column s.entries) ++
        Entry.onward s.column s.entries (Section.onward ss)))) 0 := by
    rw [s.bare]
    exact h
  obtain ⟨l1, h1, hr⟩ := reaches_entry hplaced (by omega) (.inl s.bare) hinner.1 hinner.2
  have houter : (if indent < (0 : Nat) then indent :: outer else outer) = [-1] := by
    rcases hi with ⟨rfl, rfl⟩ | ⟨rfl, rfl⟩ <;> rfl
  rw [houter] at hr
  cases hes : s.entries with
  | nil =>
    rw [hes] at hr
    obtain ⟨m, h2, hp⟩ := reaches_placed hr hopens.1 (Int.le_refl _)
    exact ⟨m, h1.trans h2, by simpa [Section.tokens, Section.body, hes, Entry.onward, Entry.lead] using hp⟩
  | cons e es =>
    rw [hes] at hr hinner
    have hcol : (0 : Int) < s.column := by
      have : 0 < s.column := Nat.succ_pos _
      omega
    obtain ⟨l2, h2, hp⟩ := reaches_placed hr hinner.1 (Int.le_of_lt hcol)
    have hp : Placed l2 _ 0 [-1] (Entry.onward s.column (e :: es) (Section.onward ss)) s.column := hp
    have hopens' := Entry.opens_onward s.column es hopens.1 hopens.2
    have hlead : Entry.lead s.column es ≤ s.column := by cases es <;> simp [Entry.lead]
    obtain ⟨l3, h3, hr3⟩ := reaches_entry hp (Int.le_of_lt hcol) (.inr hlead) hopens'.1 hopens'.2
    rw [if_pos hcol, if_pos hcol] at hr3
    obtain ⟨l4, h4, hr4⟩ := reaches_entries hr3 hopens.1 hopens.2
    obtain ⟨m, h5, hm⟩ := reaches_margin hr4 hopens.1 hcol
    exact ⟨m, h1.trans (h2.trans (h3.trans (h4.trans h5))), by simpa [Section.tokens, Section.body, hes] using hm⟩

/-- The lexer reads sections, of which one came before. -/
theorem reaches_sections {ss : List Section} (h : Placed l out 0 [-1] (Section.onward ss) 0) :
    ∃ m, Reaches l m ∧ Placed m (out ++ ss.flatMap Section.tokens) 0 [-1] [] 0 := by
  induction ss generalizing l out with
  | nil => exact ⟨l, .refl l, by simpa [Section.onward] using h⟩
  | cons s ss ih =>
    obtain ⟨l1, h1, hp⟩ := reaches_section h (.inr ⟨rfl, rfl⟩)
    obtain ⟨m, h2, hm⟩ := ih (by simpa using hp)
    exact ⟨m, h1.trans h2, by simpa [List.append_assoc] using hm⟩

/-- The end of the text ends what is left open. -/
theorem run_end {indent : Int} {column : Nat} (h : Placed l out indent outer [] column) (hi : indent ≤ column)
    (ho : indent = -1 ∧ outer = [] ∨ indent = 0 ∧ outer = [-1]) (fuel : Nat) :
    (run (fuel + 1) l).map output = some (out ++ ((if indent < 0 then [] else [.blockEnd]) ++ [.streamEnd])) := by
  have hle : l.indent ≤ l.cursor.column := by rw [h.indent, h.column]; exact hi
  have hnext : l.toNext = l := toNext_here (by rw [h.rest]; simp [opensToken])
  rw [run, hnext, dropStale_nil h.pending]
  simp only [Option.bind_eq_bind, Option.bind_some, unwind_of_le hle, h.rest]
  rcases ho with ⟨rfl, rfl⟩ | ⟨rfl, rfl⟩
  · have hm : l.atMargin = some { l with keyAllowed := false } := by
      simp [atMargin, unwind, h.flow, h.outer, unwindTo, dropPending, h.pending]
    have hw : Wrote ({ l with keyAllowed := false } : Lexer) out := h.wrote.same rfl rfl rfl
    simp only [hm, Option.bind_some]
    have hend : Wrote (push _ .streamEnd) _ := hw.push (by simp) rfl rfl rfl
    exact congrArg some hend.output
  · have hm : l.atMargin =
        some { l with tokens := .blockEnd :: l.tokens, indent := -1, outer := [], keyAllowed := false } := by
      simp [atMargin, unwind, h.flow, h.outer, h.indent, unwindTo, dropPending, h.pending, push]
    have hw : Wrote ({ l with tokens := .blockEnd :: l.tokens, indent := -1, outer := [], keyAllowed := false } : Lexer)
        (out ++ [.blockEnd]) := h.wrote.push (by simp) rfl rfl rfl
    simp only [hm, Option.bind_some]
    have hend : Wrote (push _ .streamEnd) _ := hw.push (by simp) rfl rfl rfl
    exact congrArg some (by simpa [List.append_assoc] using hend.output)

end Token.Lexer

/-! ## The text of a sheet -/

namespace Sheet

theorem isInLine_remark (r : Remark) : ∀ x ∈ r.text, isInLine x = true := by
  intro x hx
  cases hc : r.comment with
  | none =>
    rw [Remark.text_none hc] at hx
    rw [(List.mem_replicate.mp hx).2]
    decide
  | some cs =>
    rw [Remark.text_some hc, List.mem_append, List.mem_cons] at hx
    rcases hx with hx | rfl | hx
    · rw [(List.mem_replicate.mp hx).2]
      decide
    · decide
    · exact Remark.legible_of_some hc x hx

theorem isInLine_runs {more : List (Nat × List Char)}
    (hmore : more.all (fun e => isRun e.2 && e.2.head? ≠ some '#') = true) :
    ∀ x ∈ Writing.runs more, isInLine x = true := by
  intro x hx
  simp only [Writing.runs, List.mem_flatMap, List.mem_append] at hx
  simp only [List.all_eq_true, Bool.and_eq_true] at hmore
  obtain ⟨e, he, hx | hx⟩ := hx
  · rw [(List.mem_replicate.mp hx).2]
    decide
  · exact (isRun_inLine (hmore e he).1 x hx).1

theorem isInLine_writing (v : Writing) : ∀ x ∈ v.text, isInLine x = true := by
  intro x hx
  cases v with
  | plain first more hrun hfront hmore =>
    rcases List.mem_append.mp hx with hx | hx
    · exact (isRun_inLine hrun x hx).1
    · exact isInLine_runs hmore x hx
  | quoted isDouble inner codes hs =>
    have hq : isInLine (Writing.quote isDouble) = true := by cases isDouble <;> decide
    simp only [Writing.text, List.mem_cons, List.mem_append, List.not_mem_nil, or_false] at hx
    rcases hx with rfl | hx | rfl
    · exact hq
    · exact hs.inLine x hx
    · exact hq

/-- The lines of an entry are lines: they have no end inside, and only characters that a document may hold. -/
theorem isInLine_entry (column : Nat) (e : Entry) : ∀ line ∈ e.lines column, ∀ x ∈ line, isInLine x = true := by
  intro line hline x hx
  rcases List.mem_cons.mp hline with rfl | hline
  · have hshown : ∀ y ∈ Entry.shown e.value, isInLine y = true := by
      intro y hy
      cases hv : e.value with
      | none => rw [hv] at hy; cases hy
      | some v =>
        rw [hv, Entry.shown, List.mem_append] at hy
        rcases hy with hy | hy
        · rw [(List.mem_replicate.mp hy).2]
          decide
        · exact isInLine_writing v.2 y hy
    simp only [List.mem_append, List.mem_cons] at hx
    rcases hx with hx | hx | rfl | hx | hx
    · rw [(List.mem_replicate.mp hx).2]
      decide
    · exact isInLine_of_isNameChar (e.key.isNameChar_of_mem hx)
    · decide
    · exact hshown x hx
    · exact isInLine_remark e.tail x hx
  · obtain ⟨r, -, rfl⟩ := List.mem_map.mp hline
    exact isInLine_remark r x hx

theorem isInLine_lines (f : Sheet) : ∀ line ∈ f.lines, ∀ x ∈ line, isInLine x = true := by
  intro line hline x hx
  rcases List.mem_append.mp hline with hline | hline
  · obtain ⟨r, -, rfl⟩ := List.mem_map.mp hline
    exact isInLine_remark r x hx
  · obtain ⟨s, -, hline⟩ := List.mem_flatMap.mp hline
    rcases List.mem_append.mp hline with hline | hline
    · exact isInLine_entry 0 s.heading line hline x hx
    · obtain ⟨e, -, hline⟩ := List.mem_flatMap.mp hline
      exact isInLine_entry s.column e line hline x hx

/-- The tokens of the text of a sheet are those that it is meant to have. -/
theorem tokens_of_text (f : Sheet) : Token.ofText? f.chars = some f.tokens := by
  have hallowed : f.chars.all Token.isAllowed = true := by
    simp only [chars, joinLines, List.all_eq_true, List.mem_flatMap, List.mem_append, List.mem_singleton]
    rintro x ⟨line, hline, hx | rfl⟩
    · exact isAllowed_of_isInLine (f.isInLine_lines line hline x hx)
    · decide
  have hopens := Section.opens_onward f.sections
  have hstart : Token.Lexer.Resting (.ofList f.chars) [] (-1) [] (Section.onward f.sections) 0 :=
    ⟨⟨⟨rfl, by simp [Token.Lexer.ofList], by simp [Token.Lexer.ofList]⟩, rfl, rfl, rfl, rfl⟩,
      f.above, 0, f.chars_eq, fun _ => rfl, fun _ => ⟨rfl, rfl⟩⟩
  obtain ⟨l, h, hp⟩ := Token.Lexer.reaches_placed hstart hopens.1 (by omega)
  rw [Token.ofText?, if_pos hallowed]
  cases hss : f.sections with
  | nil =>
    rw [hss] at hp
    obtain ⟨fuel, hfuel, hrun⟩ := h (f.chars.length + 2) (Nat.lt_succ_of_lt (Nat.lt_succ_self _))
    obtain ⟨fuel, rfl⟩ : ∃ n, fuel = n + 1 := ⟨fuel - 1, by omega⟩
    have hend := Token.Lexer.run_end hp (by omega) (.inl ⟨rfl, rfl⟩) fuel
    rw [hrun, hend]
    simp [tokens, hss]
  | cons s ss =>
    rw [hss] at hp
    obtain ⟨l1, h1, hp1⟩ := Token.Lexer.reaches_section hp (.inl ⟨rfl, rfl⟩)
    obtain ⟨l2, h2, hp2⟩ := Token.Lexer.reaches_sections hp1
    obtain ⟨fuel, hfuel, hrun⟩ := (h.trans (h1.trans h2)) (f.chars.length + 2)
      (Nat.lt_succ_of_lt (Nat.lt_succ_self _))
    obtain ⟨fuel, rfl⟩ : ∃ n, fuel = n + 1 := ⟨fuel - 1, by omega⟩
    have hend := Token.Lexer.run_end hp2 (Int.le_refl _) (.inr ⟨rfl, rfl⟩) fuel
    rw [hrun, hend]
    simp [tokens, hss, List.append_assoc]

end Sheet

end ChatRelay.Yaml
