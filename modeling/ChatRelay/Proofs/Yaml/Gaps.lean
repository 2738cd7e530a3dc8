import ChatRelay.Proofs.Yaml.Sheet

/-!
# Gaps between tokens

- `Cursor.Past`: a place behind characters of a line (`Cursor.past_advance`);
- `gap`: remarks and the spaces in front of the next token;
- `Token.Lexer.toNext_gap`: the lexer goes over a gap;
- `Scalar.plainGap_gap`: plain text ends at a gap, and what it takes of the gap leaves a gap.
-/

namespace ChatRelay.Yaml

open AgentLine (joinLines)

theorem isBreak_of_isInLine {c : Char} (h : isInLine c = true) : isBreak c = false := by
  simp only [isInLine, Bool.and_eq_true, Bool.not_eq_true'] at h
  exact h.2

theorem isAllowed_of_isInLine {c : Char} (h : isInLine c = true) : Token.isAllowed c = true := by
  simp only [isInLine, Bool.and_eq_true] at h
  exact h.1

/-! ## Places -/

namespace Cursor

/-- A place is behind characters of a line, and some text is left there. -/
structure Past (c d : Cursor) (w r : List Char) : Prop where
  rest : d.rest = r
  index : d.index = c.index + w.length
  line : d.line = c.line
  column_le : c.column ≤ d.column
  column_eq : byteOrderMark ∉ w → d.column = c.column + w.length

theorem Past.trans {c d e : Cursor} {v w q r : List Char} (h : c.Past d v q) (h' : d.Past e w r) :
    c.Past e (v ++ w) r where
  rest := h'.rest
  index := by rw [h'.index, h.index, List.length_append, Nat.add_assoc]
  line := h'.line.trans h.line
  column_le := Nat.le_trans h.column_le h'.column_le
  column_eq hm := by
    rw [List.mem_append, not_or] at hm
    rw [h'.column_eq hm.2, h.column_eq hm.1, List.length_append, Nat.add_assoc]

theorem past_refl (c : Cursor) : c.Past c [] c.rest := ⟨rfl, rfl, rfl, Nat.le_refl _, fun _ => rfl⟩

/-- One character of a line. -/
theorem past_next {c : Cursor} {x : Char} {r : List Char} (h : c.rest = x :: r) (hx : isBreak x = false) :
    c.Past c.next [x] r := by
  have hn : c.next = ⟨r, c.index + 1, c.line, if x = byteOrderMark then c.column else c.column + 1⟩ := by
    simp [next, h, hx]
  rw [hn]
  refine ⟨rfl, rfl, rfl, ?_, fun hm => ?_⟩
  · show c.column ≤ if x = byteOrderMark then c.column else c.column + 1
    split <;> omega
  · rw [List.mem_singleton] at hm
    simp [Ne.symm hm]

/-- The characters of a line. -/
theorem past_advance {c : Cursor} {w r : List Char} (h : c.rest = w ++ r) (hw : ∀ x ∈ w, isBreak x = false) :
    c.Past (c.advance w.length) w r := by
  induction w generalizing c with
  | nil =>
    have hr : c.rest = r := h
    exact hr ▸ past_refl c
  | cons x w ih =>
    have h1 := past_next h (hw x List.mem_cons_self)
    exact h1.trans (ih h1.rest fun y hy => hw y (List.mem_cons_of_mem _ hy))

theorem span_append {c : Cursor} {w r : List Char} {p : Char → Bool} (h : c.rest = w ++ r)
    (hw : ∀ x ∈ w, p x = true) (hr : ∀ x ∈ r.head?, p x = false) : c.span p = (w, c.advance w.length) := by
  have ht : r.takeWhile p = [] := by
    cases r with
    | nil => rfl
    | cons x r => simp [hr x rfl]
  simp [span, h, List.takeWhile_append_of_pos hw, ht]

theorem lineBreak?_newline {c : Cursor} {r : List Char} (h : c.rest = '\n' :: r) :
    c.lineBreak? = some ('\n', ⟨r, c.index + 1, c.line + 1, 0⟩) := by
  have hb : isBreak '\n' = true := by decide
  simp [lineBreak?, next, h, hb]

theorem lineBreak?_none {c : Cursor} (h : ∀ x ∈ c.rest.head?, isBreak x = false) : c.lineBreak? = none := by
  unfold lineBreak?
  split
  · next hc => exact absurd (h '\r' (by simp [hc])) (by decide)
  · next x r _ hc => simp [h x (by simp [hc])]
  · rfl

end Cursor

/-! ## Gaps -/

/-- Remarks, each on a line of its own, and spaces. -/
def gap (rs : List Remark) (k : Nat) : List Char := joinLines (rs.map Remark.text) ++ List.replicate k ' '

theorem gap_nil (k : Nat) : gap [] k = List.replicate k ' ' := rfl

theorem gap_cons (r : Remark) (rs : List Remark) (k : Nat) : gap (r :: rs) k = r.text ++ '\n' :: gap rs k := by
  simp [gap, joinLines]

/-- A text begins with a token, or is at its end. -/
def opensToken (cs : List Char) : Prop := ∀ c ∈ cs.head?, c ≠ ' ' ∧ c ≠ '#' ∧ c ≠ byteOrderMark ∧ isBreak c = false

theorem Remark.text_none {r : Remark} (h : r.comment = none) : r.text = List.replicate r.spaces ' ' := by
  simp [Remark.text, h]

theorem Remark.text_some {r : Remark} {cs : List Char} (h : r.comment = some cs) :
    r.text = List.replicate r.spaces ' ' ++ '#' :: cs := by
  simp [Remark.text, h]

theorem Remark.legible_of_some {r : Remark} {cs : List Char} (h : r.comment = some cs) :
    ∀ x ∈ cs, isInLine x = true := by
  have := r.legible
  rw [h] at this
  simpa using this

/-- The comment of a remark without the spaces in front. -/
def Remark.flush (r : Remark) : Remark := { r with spaces := 0 }

theorem Remark.text_flush {r : Remark} {cs : List Char} (h : r.comment = some cs) : r.flush.text = '#' :: cs := by
  simp [Remark.flush, Remark.text, h]

/-- A gap begins with a space, a comment or the end of a line. -/
theorem head_gap {rs : List Remark} {k : Nat} {rest : List Char} {x : Char} (h : (gap rs k ++ rest).head? = some x) :
    x = ' ' ∨ x = '#' ∨ x = '\n' ∨ (rs = [] ∧ k = 0 ∧ rest.head? = some x) := by
  cases rs with
  | nil =>
    cases k with
    | zero => exact .inr (.inr (.inr ⟨rfl, rfl, by simpa [gap, joinLines] using h⟩))
    | succ k => exact .inl (by simpa [gap, joinLines, List.replicate_succ] using h.symm)
  | cons r rs =>
    rw [gap_cons] at h
    cases hs : r.spaces with
    | zero =>
      cases hc : r.comment with
      | none => exact .inr (.inr (.inl (by simpa [Remark.text, hs, hc] using h.symm)))
      | some cs => exact .inr (.inl (by simpa [Remark.text, hs, hc] using h.symm))
    | succ n => exact .inl (by simpa [Remark.text, hs, List.replicate_succ] using h.symm)

theorem atMark_gap {rs : List Remark} {k : Nat} {rest : List Char} (h : atMark rest = false) :
    atMark (gap rs k ++ rest) = false := by
  cases hr : gap rs k ++ rest with
  | nil => rfl
  | cons x cs =>
    have hx : (gap rs k ++ rest).head? = some x := by rw [hr]; rfl
    rcases head_gap hx with rfl | rfl | rfl | ⟨rfl, rfl, _⟩
    · rfl
    · rfl
    · rfl
    · rw [← hr]
      exact h

theorem atSpace_gap {r : Remark} {rs : List Remark} {k : Nat} {rest : List Char} (h : r.isApart = true) :
    atSpace (gap (r :: rs) k ++ rest) = true := by
  rw [gap_cons, Remark.text]
  cases hs : r.spaces with
  | succ n => simp [List.replicate_succ, atSpace]
  | zero =>
    have hc : r.comment = none := by simpa [Remark.isApart, hs] using h
    have hb : isBreak '\n' = true := by decide
    simp [hc, atSpace, hb]

namespace Cursor

/-- The place behind spaces. -/
theorem skip_spaces {c : Cursor} {n : Nat} {r : List Char} (h : c.rest = List.replicate n ' ' ++ r)
    (hr : r.head? ≠ some ' ') : c.skip (· = ' ') = c.advance n := by
  have hs := span_append (p := (· = ' ')) h (by simp) fun x hx => by
    rcases Decidable.em (x = ' ') with rfl | hne
    · exact absurd hx hr
    · simpa using hne
  rw [List.length_replicate] at hs
  simp [skip, hs]

theorem past_spaces {c : Cursor} {n : Nat} {r : List Char} (h : c.rest = List.replicate n ' ' ++ r) :
    c.Past (c.advance n) (List.replicate n ' ') r := by
  have := past_advance h (by intro x hx; rw [(List.mem_replicate.mp hx).2]; decide)
  rwa [List.length_replicate] at this

theorem length_spaces_le {c : Cursor} {n : Nat} {r : List Char} (h : c.rest = List.replicate n ' ' ++ r) :
    (c.advance n).rest.length ≤ c.rest.length := by
  rw [(past_spaces h).rest, h, List.length_append]
  omega

theorem length_line_le {c : Cursor} {n : Nat} {r : List Char} (h : c.rest = List.replicate n ' ' ++ '\n' :: r) :
    r.length ≤ c.rest.length := by
  rw [h, List.length_append, List.length_cons]
  omega

theorem column_spaces {c : Cursor} {n : Nat} {r : List Char} (h : c.rest = List.replicate n ' ' ++ r) :
    (c.advance n).column = c.column + n := by
  have := (past_spaces h).column_eq (by intro hm; exact absurd (List.mem_replicate.mp hm).2 (by decide))
  rwa [List.length_replicate] at this

end Cursor

namespace Token.Lexer

/-- The end of a line: the gap goes on behind it. -/
theorem skipGaps_line (fuel : Nat) {l : Lexer} {r : Remark} {cs : List Char} (hflow : l.flow = 0)
    (h : l.cursor.rest = r.text ++ '\n' :: cs) :
    ∃ c : Cursor, c.rest = cs ∧ c.column = 0 ∧
      skipGaps (fuel + 1) l = skipGaps fuel { l with cursor := c, keyAllowed := true } := by
  cases hc : r.comment with
  | none =>
    rw [Remark.text_none hc] at h
    have hp := Cursor.past_spaces h
    refine ⟨⟨cs, (l.cursor.advance r.spaces).index + 1, (l.cursor.advance r.spaces).line + 1, 0⟩, rfl, rfl, ?_⟩
    rw [skipGaps]
    simp only [Cursor.skip_spaces h (by simp), Cursor.peek?, hp.rest, List.head?_cons, Option.some.injEq,
      show ¬ '\n' = '#' by decide, if_false, Cursor.lineBreak?_newline hp.rest, hflow, decide_true, Bool.or_true]
  | some comment =>
    rw [Remark.text_some hc, List.append_assoc, List.cons_append] at h
    have hp := Cursor.past_spaces h
    have hin : ∀ x ∈ '#' :: comment, isBreak x = false := by
      intro x hx
      rcases List.mem_cons.mp hx with rfl | hx
      · decide
      · exact isBreak_of_isInLine (Remark.legible_of_some hc x hx)
    have hrest : (l.cursor.advance r.spaces).rest = ('#' :: comment) ++ '\n' :: cs := by simpa using hp.rest
    have hskip : (l.cursor.advance r.spaces).skip (fun ch => !isBreak ch) =
        (l.cursor.advance r.spaces).advance ('#' :: comment).length := by
      have := Cursor.span_append (p := fun ch => !isBreak ch) hrest (by simpa using hin)
        (by intro x hx; cases hx; decide)
      simp only [Cursor.skip, this]
    have hq := Cursor.past_advance hrest hin
    refine ⟨⟨cs, ((l.cursor.advance r.spaces).advance ('#' :: comment).length).index + 1,
      ((l.cursor.advance r.spaces).advance ('#' :: comment).length).line + 1, 0⟩, rfl, rfl, ?_⟩
    rw [skipGaps]
    simp only [Cursor.skip_spaces h (by simp), Cursor.peek?, hrest, List.cons_append, List.head?_cons, if_true,
      hskip, Cursor.lineBreak?_newline hq.rest, hflow, decide_true, Bool.or_true]

/-- The lexer goes over a gap to the next token. A key may begin there when a line has ended. -/
theorem skipGaps_gap {rs : List Remark} {k fuel : Nat} {l : Lexer} {rest : List Char} (hflow : l.flow = 0)
    (hfuel : rs.length < fuel) (h : l.cursor.rest = gap rs k ++ rest) (ho : opensToken rest) :
    ∃ c : Cursor, c.rest = rest ∧ c.column = (if rs = [] then l.cursor.column else 0) + k ∧
      skipGaps fuel l = { l with cursor := c, keyAllowed := l.keyAllowed || !rs.isEmpty } := by
  induction rs generalizing fuel l with
  | nil =>
    rw [gap_nil] at h
    obtain ⟨fuel, rfl⟩ : ∃ n, fuel = n + 1 := ⟨fuel - 1, by simp at hfuel; omega⟩
    have hp := Cursor.past_spaces h
    have hhead : ∀ x ∈ rest.head?, x ≠ ' ' ∧ x ≠ '#' ∧ x ≠ byteOrderMark ∧ isBreak x = false := ho
    refine ⟨_, hp.rest, by simpa using Cursor.column_spaces h, ?_⟩
    rw [skipGaps]
    have hspace : rest.head? ≠ some ' ' := fun hx => (hhead ' ' hx).1 rfl
    have hhash : rest.head? ≠ some '#' := fun hx => (hhead '#' hx).2.1 rfl
    have hbreak : (l.cursor.advance k).lineBreak? = none :=
      Cursor.lineBreak?_none (by rw [hp.rest]; exact fun x hx => (hhead x hx).2.2.2)
    simp only [Cursor.skip_spaces h hspace, Cursor.peek?, hp.rest, hhash, if_false, hbreak, moveTo, List.isEmpty_nil,
      Bool.not_true, Bool.or_false]
  | cons r rs ih =>
    rw [gap_cons, List.append_assoc, List.cons_append] at h
    obtain ⟨fuel, rfl⟩ : ∃ n, fuel = n + 1 := ⟨fuel - 1, by omega⟩
    obtain ⟨c, hc, hcol, hs⟩ := skipGaps_line fuel hflow h
    obtain ⟨d, hd, hdc, hds⟩ := ih (l := { l with cursor := c, keyAllowed := true }) hflow
      (by simpa using hfuel) hc
    exact ⟨d, hd, by simpa [hcol] using hdc, by rw [hs, hds]; simp⟩

theorem length_gap (rs : List Remark) (k : Nat) : rs.length ≤ (gap rs k).length := by
  induction rs with
  | nil => simp
  | cons r rs ih => simp only [gap_cons, List.length_cons, List.length_append]; omega

/-- The lexer goes over a gap to the next token. -/
theorem toNext_gap {rs : List Remark} {k : Nat} {l : Lexer} {rest : List Char} (hflow : l.flow = 0)
    (h : l.cursor.rest = gap rs k ++ rest) (ho : opensToken rest) :
    ∃ c : Cursor, c.rest = rest ∧ c.column = (if rs = [] then l.cursor.column else 0) + k ∧
      l.toNext = { l with cursor := c, keyAllowed := l.keyAllowed || !rs.isEmpty } := by
  have hm : l.cursor.peek? ≠ some byteOrderMark := by
    intro hp
    rw [Cursor.peek?, h] at hp
    rcases head_gap hp with hx | hx | hx | ⟨_, _, hx⟩
    · exact absurd hx (by decide)
    · exact absurd hx (by decide)
    · exact absurd hx (by decide)
    · exact (ho _ hx).2.2.1 rfl
  have ht : l.toNext = skipGaps (l.cursor.rest.length + 1) l := by simp [toNext, hm]
  rw [ht]
  refine skipGaps_gap hflow ?_ h ho
  rw [h, List.length_append]
  have := length_gap rs k
  omega

end Token.Lexer

/-! ## Gaps after plain text -/

namespace Scalar

theorem plainBreaks_spaces (acc : List Char) {n fuel : Nat} {cs : List Char} {c : Cursor} (hfuel : c.rest.length ≤ fuel)
    (h : c.rest = List.replicate n ' ' ++ cs) :
    ∃ fuel', cs.length ≤ fuel' ∧ plainBreaks fuel acc c = plainBreaks fuel' acc (c.advance n) := by
  induction n generalizing fuel c with
  | zero => exact ⟨fuel, by simpa [h] using hfuel, rfl⟩
  | succ n ih =>
    rw [List.replicate_succ, List.cons_append] at h
    obtain ⟨fuel, rfl⟩ : ∃ n, fuel = n + 1 := ⟨fuel - 1, by rw [h, List.length_cons] at hfuel; omega⟩
    have hp := Cursor.past_next h (by decide)
    have hb : c.lineBreak? = none := Cursor.lineBreak?_none (by rw [h]; intro x hx; cases hx; decide)
    obtain ⟨fuel', hf, he⟩ := @ih fuel c.next
      (by rw [hp.rest]; rw [h, List.length_cons] at hfuel; omega) hp.rest
    refine ⟨fuel', hf, ?_⟩
    rw [plainBreaks]
    simp only [hb, Cursor.peek?, h, List.head?_cons, if_true, he, Cursor.advance]

/-- A comment or a token ends the empty lines after plain text. -/
theorem plainBreaks_stop {fuel : Nat} {acc : List Char} {c : Cursor}
    (h : ∀ x ∈ c.rest.head?, x ≠ ' ' ∧ isBreak x = false) : plainBreaks fuel acc c = (acc, c, false) := by
  cases fuel with
  | zero => rfl
  | succ fuel =>
    have hb : c.lineBreak? = none := Cursor.lineBreak?_none fun x hx => (h x hx).2
    have hs : ¬c.rest.head? = some ' ' := fun hx => (h ' ' hx).1 rfl
    rw [plainBreaks]
    simp only [hb, Cursor.peek?, hs, if_false]

/-- What is left of a gap where plain text has ended: a comment and all that follows, or nothing. -/
structure Leaves (rest : List Char) (k : Nat) (rs : List Remark) (k' : Nat) (broken : Bool) (c : Cursor) : Prop where
  rest : c.rest = gap rs k' ++ rest
  ended : rs = [] → k' = 0 ∧ broken = true ∧ c.column = k
  comment : rs ≠ [] → k' = k ∧ c.peek? = some '#'

/-- The empty lines after plain text. -/
theorem plainBreaks_gap (fuel : Nat) (acc : List Char) {rs : List Remark} {k : Nat} {rest : List Char} {c : Cursor}
    (hfuel : c.rest.length ≤ fuel) (hcol : c.column = 0) (h : c.rest = gap rs k ++ rest) (ho : opensToken rest)
    (hm : atMark rest = false) :
    ∃ breaks d rs' k', plainBreaks fuel acc c = (breaks, d, false) ∧ Leaves rest k rs' k' true d ∧
      d.rest.length ≤ c.rest.length := by
  induction rs generalizing fuel acc c with
  | nil =>
    rw [gap_nil] at h
    obtain ⟨fuel', -, he⟩ := plainBreaks_spaces acc hfuel h
    have hp := Cursor.past_spaces h
    have hk := Cursor.column_spaces h
    have hstop := he.trans (plainBreaks_stop (by rw [hp.rest]; exact fun x hx => ⟨(ho x hx).1, (ho x hx).2.2.2⟩))
    exact ⟨acc, _, [], 0, hstop, ⟨hp.rest, fun _ => ⟨rfl, rfl, by omega⟩, fun hne => absurd rfl hne⟩,
      Cursor.length_spaces_le h⟩
  | cons r rs ih =>
    rw [gap_cons, List.append_assoc, List.cons_append] at h
    cases hc : r.comment with
    | none =>
      rw [Remark.text_none hc] at h
      obtain ⟨fuel', hf, he⟩ := plainBreaks_spaces acc hfuel h
      have hp := Cursor.past_spaces h
      obtain ⟨fuel', rfl⟩ : ∃ n, fuel' = n + 1 := ⟨fuel' - 1, by rw [List.length_cons] at hf; omega⟩
      obtain ⟨breaks, d, rs', k', hb, hl, hless⟩ := ih fuel' ('\n' :: acc)
        (c := ⟨gap rs k ++ rest, (c.advance r.spaces).index + 1, (c.advance r.spaces).line + 1, 0⟩) (by simpa using hf)
        rfl rfl
      refine ⟨breaks, d, rs', k', ?_, hl, Nat.le_trans hless (Cursor.length_line_le h)⟩
      rw [he, plainBreaks]
      simp only [Cursor.lineBreak?_newline hp.rest, atMark_gap hm, Bool.false_eq_true, if_false]
      exact hb
    | some comment =>
      rw [Remark.text_some hc, List.append_assoc, List.cons_append] at h
      obtain ⟨fuel', -, he⟩ := plainBreaks_spaces acc hfuel h
      have hp := Cursor.past_spaces h
      have hstop := he.trans (plainBreaks_stop (by rw [hp.rest]; intro x hx; cases hx; decide))
      refine ⟨acc, _, r.flush :: rs, k, hstop, ⟨?_, fun hn => absurd hn (by simp), fun _ => ⟨rfl, ?_⟩⟩,
        Cursor.length_spaces_le h⟩
      · rw [hp.rest, gap_cons, Remark.text_flush hc]
        simp
      · rw [Cursor.peek?, hp.rest]
        rfl

/-- Plain text ends at a gap whose first line has no number sign right at the front. -/
theorem plainGap_gap {r : Remark} {rs : List Remark} {k : Nat} {rest : List Char} {c : Cursor}
    (happ : r.isApart = true) (h : c.rest = gap (r :: rs) k ++ rest) (ho : opensToken rest)
    (hm : atMark rest = false) :
    ∃ rs' k', (plainGap c).text ≠ [] ∧ Leaves rest k rs' k' (plainGap c).broken (plainGap c).cursor ∧
      (plainGap c).cursor.rest.length ≤ c.rest.length := by
  rw [gap_cons, List.append_assoc, List.cons_append] at h
  cases hc : r.comment with
  | none =>
    rw [Remark.text_none hc] at h
    have hs := Cursor.span_append (p := (· = ' ')) h (by simp) (by intro x hx; cases hx; decide)
    rw [List.length_replicate] at hs
    have hp := Cursor.past_spaces h
    obtain ⟨breaks, d, rs', k', hb, hl, hless⟩ := plainBreaks_gap (gap rs k ++ rest).length []
      (c := ⟨gap rs k ++ rest, (c.advance r.spaces).index + 1, (c.advance r.spaces).line + 1, 0⟩) (Nat.le_refl _) rfl
      rfl ho hm
    have hg : plainGap c = ⟨folded '\n' breaks.reverse, d, true⟩ := by
      simp only [plainGap, hs, Cursor.lineBreak?_newline hp.rest, atMark_gap hm, Bool.false_eq_true, if_false, hb]
    refine ⟨rs', k', ?_, ?_, ?_⟩
    · rw [hg]
      cases breaks <;> simp [folded]
    · rw [hg]
      exact hl
    · rw [hg]
      exact Nat.le_trans hless (Cursor.length_line_le h)
  | some comment =>
    rw [Remark.text_some hc, List.append_assoc, List.cons_append] at h
    have hs := Cursor.span_append (p := (· = ' ')) h (by simp) (by intro x hx; cases hx; decide)
    rw [List.length_replicate] at hs
    have hp := Cursor.past_spaces h
    have hb : (c.advance r.spaces).lineBreak? = none :=
      Cursor.lineBreak?_none (by rw [hp.rest]; intro x hx; cases hx; decide)
    have hg : plainGap c = ⟨List.replicate r.spaces ' ', c.advance r.spaces, false⟩ := by
      simp only [plainGap, hs, hb]
    have hspaces : r.spaces ≠ 0 := by simpa [Remark.isApart, hc] using happ
    refine ⟨r.flush :: rs, k, ?_, ?_, by rw [hg]; exact Cursor.length_spaces_le h⟩
    · rw [hg]
      simpa using hspaces
    · rw [hg]
      refine ⟨?_, fun hn => absurd hn (by simp), fun _ => ⟨rfl, ?_⟩⟩
      · rw [hp.rest, gap_cons, Remark.text_flush hc]
        simp
      · rw [Cursor.peek?, hp.rest]
        rfl

end Scalar

end ChatRelay.Yaml
