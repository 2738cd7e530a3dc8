import ChatRelay.Proofs.Yaml.Gaps

/-!
# Scalars that are read back

- `Scalar.plain_key`, `Scalar.plain_writing`: plain text is read up to the colon behind it, or up to the gap;
- `Scalar.quoted_spells`: a text between quotes is read as what it spells.
-/

namespace ChatRelay.Yaml

/-! ## Plain text -/

section Plain

theorem isRun_ne_nil {cs : List Char} (h : isRun cs = true) : cs ≠ [] := by
  rintro rfl
  exact absurd h (by decide)

theorem isRun_inLine {cs : List Char} (h : isRun cs = true) : ∀ x ∈ cs, isInLine x = true ∧ x ≠ ' ' ∧ x ≠ '\t' := by
  simp only [isRun, Bool.and_eq_true, List.all_eq_true, decide_eq_true_eq] at h
  exact fun x hx => ⟨(h.1.2 x hx).1.1, (h.1.2 x hx).1.2, (h.1.2 x hx).2⟩

theorem isRun_getLast? {cs : List Char} (h : isRun cs = true) : cs.getLast? ≠ some ':' := by
  simp only [isRun, Bool.and_eq_true, decide_eq_true_eq] at h
  exact h.2

/-- The place behind a run. -/
theorem Cursor.past_run {c : Cursor} {run r : List Char} (h : c.rest = run ++ r) (hrun : isRun run = true) :
    c.Past (c.advance run.length) run r ∧ (c.advance run.length).rest.length < c.rest.length := by
  have hp := past_advance h fun x hx => isBreak_of_isInLine (isRun_inLine hrun x hx).1
  have := List.length_pos_iff.mpr (isRun_ne_nil hrun)
  refine ⟨hp, ?_⟩
  simp only [hp.rest, h, List.length_append]
  omega

namespace Scalar

/-- A run of plain text ends where nothing more of it follows. -/
theorem plainLength_run {w r : List Char} (hw : ∀ x ∈ w, isInLine x = true ∧ x ≠ ' ' ∧ x ≠ '\t')
    (hl : w.getLast? ≠ some ':') (hr : plainLength false r = 0) : plainLength false (w ++ r) = w.length := by
  induction w with
  | nil => exact hr
  | cons c cs ih =>
    obtain ⟨hin, hs, ht⟩ := hw c List.mem_cons_self
    have hcs : ∀ x ∈ cs, isInLine x = true ∧ x ≠ ' ' ∧ x ≠ '\t' := fun x hx => hw x (List.mem_cons_of_mem _ hx)
    have hcolon :
        (c = ':' && (atSpace (cs ++ r) || (false && ((cs ++ r).head?.map isFlowMark).getD false))) = false := by
      cases cs with
      | nil => simpa using fun hc => absurd hc (by simpa using hl)
      | cons d cs =>
        obtain ⟨hd, hds, hdt⟩ := hcs d List.mem_cons_self
        simp [atSpace, hds, hdt, isBreak_of_isInLine hd]
    have ih := ih hcs (by
      cases cs with
      | nil => simp
      | cons d cs => simpa using hl)
    rw [List.cons_append, plainLength, hcolon, ih]
    simp [hs, ht, isBreak_of_isInLine hin]

theorem plainLength_colon {r : List Char} (h : atSpace r = true) : plainLength false (':' :: r) = 0 := by
  simp [plainLength, h]

theorem plainLength_space {c : Char} {r : List Char} (h : c = ' ' ∨ isBreak c = true) :
    plainLength false (c :: r) = 0 := by
  rcases h with rfl | h
  · simp [plainLength]
  · simp [plainLength, h]

/-- One run of plain text, and what its gap decides. -/
theorem plainFrom_run {run r acc text : List Char} {broken : Bool} {c : Cursor} {indent fuel : Nat}
    (h : c.rest = run ++ r) (hrun : isRun run = true) (hh : run.head? ≠ some '#') (hr : plainLength false r = 0) :
    plainFrom false indent (fuel + 1) acc text broken c =
      let g := plainGap (c.advance run.length)
      if g.text.isEmpty || g.cursor.peek? = some '#' || g.cursor.column < indent then
        ⟨acc ++ text ++ run, g.cursor, g.broken⟩
      else plainFrom false indent fuel (acc ++ text ++ run) g.text g.broken g.cursor := by
  have hn : plainLength false (run ++ r) = run.length :=
    plainLength_run (isRun_inLine hrun) (isRun_getLast? hrun) hr
  have hlen : run.length ≠ 0 := by simpa using isRun_ne_nil hrun
  have hpeek : c.peek? ≠ some '#' := by
    rw [Cursor.peek?, h]
    cases run with
    | nil => exact absurd rfl (isRun_ne_nil hrun)
    | cons x w => exact hh
  rw [plainFrom]
  simp only [hpeek, if_false, h, hn, hlen, List.take_left', Bool.not_false, Bool.true_and]

/-- Plain text in front of a colon is a key. -/
theorem plain_key (indent : Nat) {c : Cursor} {w r : List Char} (h : c.rest = w ++ ':' :: r)
    (hw : isRun w = true) (hh : w.head? ≠ some '#') (hr : atSpace r = true) :
    plain false indent c = ⟨w, c.advance w.length, false⟩ := by
  obtain ⟨hp, -⟩ := Cursor.past_run h hw
  have hspan : (c.advance w.length).span (· = ' ') = ([], c.advance w.length) :=
    Cursor.span_append (w := []) hp.rest (by simp) (by simp)
  have hgap : plainGap (c.advance w.length) = ⟨[], c.advance w.length, false⟩ := by
    simp only [plainGap, hspan, Cursor.lineBreak?_none (c := c.advance w.length) (by rw [hp.rest]; simp; decide)]
  rw [plain, plainFrom_run h hw hh (plainLength_colon hr)]
  simp [hgap]

theorem runs_cons (n : Nat) (w : List Char) (more : List (Nat × List Char)) :
    Writing.runs ((n, w) :: more) = List.replicate (n + 1) ' ' ++ (w ++ Writing.runs more) := by
  simp [Writing.runs]

/-- No plain text begins at a gap whose first line has no number sign right at the front. -/
theorem plainLength_gap {r : Remark} {rs : List Remark} {k : Nat} {rest : List Char} (happ : r.isApart = true) :
    plainLength false (gap (r :: rs) k ++ rest) = 0 := by
  rw [gap_cons, Remark.text]
  cases hs : r.spaces with
  | succ n =>
    rw [List.replicate_succ]
    exact plainLength_space (.inl rfl)
  | zero =>
    have hc : r.comment = none := by simpa [Remark.isApart, hs] using happ
    rw [hc]
    exact plainLength_space (.inr (by decide))

/-- Spaces between runs. -/
theorem plainGap_spaces {c : Cursor} {n : Nat} {r : List Char} (h : c.rest = List.replicate n ' ' ++ r)
    (hr : ∀ x ∈ r.head?, x ≠ ' ' ∧ isBreak x = false) :
    plainGap c = ⟨List.replicate n ' ', c.advance n, false⟩ := by
  have hs := Cursor.span_append (p := (· = ' ')) h (by simp) (by simpa using fun x hx => (hr x hx).1)
  rw [List.length_replicate] at hs
  have hb : (c.advance n).lineBreak? = none :=
    Cursor.lineBreak?_none (by rw [(Cursor.past_spaces h).rest]; exact fun x hx => (hr x hx).2)
  simp only [plainGap, hs, hb]

section Runs

variable {acc text run rest : List Char} {broken : Bool} {c : Cursor} {r : Remark} {rs : List Remark} {k indent : Nat}

/-- The last run of plain text is read up to the gap behind it. -/
theorem plainFrom_last (fuel : Nat) (h : c.rest = run ++ (gap (r :: rs) k ++ rest)) (hrun : isRun run = true)
    (hh : run.head? ≠ some '#') (hk : k < indent) (happ : r.isApart = true) (ho : opensToken rest)
    (hm : atMark rest = false) :
    ∃ rs' k', (plainFrom false indent (fuel + 1) acc text broken c).text = acc ++ text ++ run ∧
      Leaves rest k rs' k' (plainFrom false indent (fuel + 1) acc text broken c).broken
        (plainFrom false indent (fuel + 1) acc text broken c).cursor ∧
      (plainFrom false indent (fuel + 1) acc text broken c).cursor.rest.length < c.rest.length := by
  obtain ⟨hp, hrunless⟩ := Cursor.past_run h hrun
  obtain ⟨rs', k', htext, hl, hless⟩ := plainGap_gap happ hp.rest ho hm
  -- Either a comment follows, or the next token is not indented enough.
  have hend : (plainGap (c.advance run.length)).cursor.peek? = some '#' ∨
      (plainGap (c.advance run.length)).cursor.column < indent := by
    rcases Decidable.em (rs' = []) with hnil | hne
    · exact .inr (by rw [(hl.ended hnil).2.2]; exact hk)
    · exact .inl (hl.comment hne).2
  have hcond : ((plainGap (c.advance run.length)).text.isEmpty ||
      decide ((plainGap (c.advance run.length)).cursor.peek? = some '#') ||
      decide ((plainGap (c.advance run.length)).cursor.column < indent)) = true := by
    rcases hend with hx | hx <;> simp [hx]
  refine ⟨rs', k', ?_⟩
  rw [plainFrom_run h hrun hh (plainLength_gap happ)]
  simp only [hcond, if_true]
  exact ⟨trivial, hl, Nat.lt_of_le_of_lt hless hrunless⟩

/-- A run of plain text with another one behind spaces is read up to that one. -/
theorem plainFrom_more {w r : List Char} {n : Nat} (fuel : Nat)
    (h : c.rest = run ++ (List.replicate (n + 1) ' ' ++ (w ++ r))) (hrun : isRun run = true)
    (hh : run.head? ≠ some '#') (hw : isRun w = true) (hwh : w.head? ≠ some '#') (hcol : indent ≤ c.column) :
    plainFrom false indent (fuel + 1) acc text broken c =
      plainFrom false indent fuel (acc ++ text ++ run) (List.replicate (n + 1) ' ') false
        ((c.advance run.length).advance (n + 1)) := by
  obtain ⟨hp, -⟩ := Cursor.past_run h hrun
  have hq := Cursor.past_spaces hp.rest
  have hcol' : indent ≤ ((c.advance run.length).advance (n + 1)).column :=
    Nat.le_trans hcol (Nat.le_trans hp.column_le hq.column_le)
  have hs : plainLength false (List.replicate (n + 1) ' ' ++ (w ++ r)) = 0 := by
    rw [List.replicate_succ]
    exact plainLength_space (.inl rfl)
  obtain ⟨y, w, rfl⟩ := List.exists_cons_of_ne_nil (isRun_ne_nil hw)
  have hhead : ∀ x ∈ (y :: w ++ r).head?, x ≠ ' ' ∧ isBreak x = false := by
    intro x hx
    cases hx
    have := isRun_inLine hw y List.mem_cons_self
    exact ⟨this.2.1, isBreak_of_isInLine this.1⟩
  have hpeek : ((c.advance run.length).advance (n + 1)).peek? ≠ some '#' := by
    rw [Cursor.peek?, hq.rest]
    exact hwh
  rw [plainFrom_run h hrun hh hs, plainGap_spaces hp.rest hhead]
  simp only [hpeek, List.isEmpty_replicate, Nat.succ_ne_zero, decide_false, Nat.not_lt.mpr hcol', Bool.or_false,
    Bool.false_eq_true, if_false]

/-- Plain text is read run by run up to the gap behind it. -/
theorem plainFrom_runs (acc text : List Char) {more : List (Nat × List Char)} {fuel : Nat}
    (hfuel : more.length < fuel) (h : c.rest = run ++ (Writing.runs more ++ (gap (r :: rs) k ++ rest)))
    (hrun : isRun run = true) (hh : run.head? ≠ some '#') (hmore : ∀ e ∈ more, isRun e.2 = true ∧ e.2.head? ≠ some '#')
    (hcol : indent ≤ c.column) (hk : k < indent) (happ : r.isApart = true) (ho : opensToken rest)
    (hm : atMark rest = false) :
    ∃ rs' k', (plainFrom false indent fuel acc text broken c).text = acc ++ text ++ (run ++ Writing.runs more) ∧
      Leaves rest k rs' k' (plainFrom false indent fuel acc text broken c).broken
        (plainFrom false indent fuel acc text broken c).cursor ∧
      (plainFrom false indent fuel acc text broken c).cursor.rest.length < c.rest.length := by
  obtain ⟨fuel, rfl⟩ : ∃ n, fuel = n + 1 := ⟨fuel - 1, by omega⟩
  induction more generalizing run acc text broken c fuel with
  | nil => simpa [Writing.runs] using plainFrom_last fuel (by simpa [Writing.runs] using h) hrun hh hk happ ho hm
  | cons e more ih =>
    obtain ⟨n, w⟩ := e
    obtain ⟨hw, hwh⟩ := hmore (n, w) List.mem_cons_self
    rw [runs_cons, List.append_assoc, List.append_assoc] at h
    obtain ⟨hp, hrunless⟩ := Cursor.past_run h hrun
    have hq := Cursor.past_spaces hp.rest
    obtain ⟨fuel, rfl⟩ : ∃ m, fuel = m + 1 := ⟨fuel - 1, by rw [List.length_cons] at hfuel; omega⟩
    obtain ⟨rs', k', htext, hl, hless⟩ := ih (acc ++ text ++ run) (List.replicate (n + 1) ' ') hq.rest hw hwh
      (fun e he => hmore e (List.mem_cons_of_mem _ he)) (Nat.le_trans hcol (Nat.le_trans hp.column_le hq.column_le))
      fuel (by simpa using hfuel)
    refine ⟨rs', k', ?_⟩
    rw [plainFrom_more (fuel + 1) h hrun hh hw hwh hcol]
    refine ⟨?_, hl, Nat.lt_trans hless (Nat.lt_of_le_of_lt (Cursor.length_spaces_le hp.rest) hrunless)⟩
    rw [htext, runs_cons]
    simp [List.append_assoc]

end Runs

theorem length_runs (more : List (Nat × List Char)) : more.length ≤ (Writing.runs more).length := by
  induction more with
  | nil => exact Nat.le_refl _
  | cons e more ih =>
    rw [runs_cons]
    simp only [List.length_cons, List.length_append, List.length_replicate]
    omega

theorem head_ne_hash {run : List Char} (h : isFront run = true) : run.head? ≠ some '#' := by
  intro he
  cases run with
  | nil => cases he
  | cons x cs =>
    have hx : Token.Lexer.isIndicator '#' = true := by decide
    rw [Option.some.inj he] at h
    simp [isFront, hx] at h

/-- Plain text on the line of a key is read up to the gap behind it. -/
theorem plain_writing (indent : Nat) {first rest : List Char} {more : List (Nat × List Char)} {c : Cursor} {r : Remark}
    {rs : List Remark} {k : Nat} (h : c.rest = first ++ Writing.runs more ++ (gap (r :: rs) k ++ rest))
    (hrun : isRun first = true) (hfront : isFront first = true)
    (hmore : more.all (fun e => isRun e.2 && e.2.head? ≠ some '#') = true) (hcol : indent ≤ c.column)
    (hk : k < indent) (happ : r.isApart = true) (ho : opensToken rest) (hm : atMark rest = false) :
    ∃ rs' k', (plain false indent c).text = first ++ Writing.runs more ∧
      Leaves rest k rs' k' (plain false indent c).broken (plain false indent c).cursor ∧
      (plain false indent c).cursor.rest.length < c.rest.length := by
  rw [List.append_assoc] at h
  refine plainFrom_runs [] [] ?_ h hrun (head_ne_hash hfront) (by simpa using hmore) hcol hk happ ho hm
  have := length_runs more
  simp only [h, List.length_append]
  omega

end Scalar

end Plain

/-! ## Text between quotes -/

section Quoted

theorem isInLine_of_escape? {c r : Char} (h : Scalar.escape? c = some r) : isInLine c = true := by
  unfold Scalar.escape? at h
  split at h <;> first | decide | cases h

theorem escape?_of_escapeWidth? {c : Char} {width : Nat} (h : Scalar.escapeWidth? c = some width) :
    Scalar.escape? c = none ∧ isInLine c = true := by
  unfold Scalar.escapeWidth? at h
  split at h <;> first | decide | cases h

theorem isInLine_of_hexDigit? {c : Char} {n : Nat} (h : Text.hexDigit? c = some n) : isInLine c = true := by
  have hc : 48 ≤ c.toNat ∧ c.toNat ≤ 102 := by
    simp only [Text.hexDigit?] at h
    split at h
    · omega
    · split at h
      · omega
      · split at h
        · omega
        · cases h
  simp only [isInLine, Token.isAllowed, isBreak]
  have hlf : c ≠ '\n' := fun he => by subst he; exact absurd hc (by decide)
  have hcr : c ≠ '\r' := fun he => by subst he; exact absurd hc (by decide)
  simp [hlf, hcr]
  omega

theorem isInLine_of_hexNumber? {ds : List Char} {m n : Nat}
    (h : ds.foldlM (fun n c => (Text.hexDigit? c).map (n * 16 + ·)) m = some n) : ∀ x ∈ ds, isInLine x = true := by
  induction ds generalizing m with
  | nil => simp
  | cons d ds ih =>
    rw [List.foldlM_cons] at h
    cases hd : Text.hexDigit? d with
    | none => simp [hd] at h
    | some v =>
      simp only [hd, Option.map_some, Option.bind_eq_bind, Option.bind_some] at h
      intro x hx
      rcases List.mem_cons.mp hx with rfl | hx
      · exact isInLine_of_hexDigit? hd
      · exact ih h x hx

theorem isInLine_of_escapeCode? {width n : Nat} {ds : List Char} (hlen : ds.length = width)
    (h : Scalar.escapeCode? width ds = some n) : ∀ x ∈ ds, isInLine x = true := by
  have ht : ds.take width = ds := List.take_of_length_le (by omega)
  simp only [Scalar.escapeCode?, ht, hlen, Nat.lt_irrefl, if_false, Option.bind_eq_bind] at h
  cases hn : Text.hexNumber? ds with
  | none => simp [hn] at h
  | some m => exact isInLine_of_hexNumber? hn

theorem escapeCode?_append {width : Nat} {ds r : List Char} (hlen : ds.length = width) :
    Scalar.escapeCode? width (ds ++ r) = Scalar.escapeCode? width ds := by
  have ht : ds.take width = ds := List.take_of_length_le (by omega)
  simp only [Scalar.escapeCode?, List.take_left' hlen, ht]

/-- What stands between quotes stands on one line. -/
theorem Spells.inLine {isDouble : Bool} {cs : List Char} {codes : List Nat} (h : Spells isDouble cs codes) :
    ∀ x ∈ cs, isInLine x = true := by
  induction h with
  | nil => simp
  | char hin _ _ ih => simpa using ⟨hin, ih⟩
  | doubled _ _ ih => simpa using ⟨by decide, ih⟩
  | escape _ hr _ ih => simpa using ⟨by decide, isInLine_of_escape? hr, ih⟩
  | code _ hw hlen hn _ ih =>
    have hd := isInLine_of_escapeCode? hlen hn
    have hc := (escape?_of_escapeWidth? hw).2
    intro x hx
    simp only [List.mem_cons, List.mem_append] at hx
    rcases hx with rfl | rfl | hx | hx
    · decide
    · exact hc
    · exact hd x hx
    · exact ih x hx

namespace Scalar

variable {isDouble : Bool} {fuel : Nat} {acc : List Nat} {c : Cursor} {x : Char} {cs : List Char}

theorem next_rest (h : c.rest = x :: cs) (hx : isBreak x = false) : c.next.rest = cs :=
  (Cursor.past_next h hx).rest

theorem span_cons {p : Char → Bool} (h : c.rest = x :: cs) (hx : p x = true) (hb : isBreak x = false) :
    c.span p = (x :: (c.next.span p).1, (c.next.span p).2) := by
  simp [Cursor.span, h, hx, next_rest h hb, Cursor.advance]

theorem span_stop {p : Char → Bool} (h : ∀ y ∈ c.rest.head?, p y = false) : c.span p = ([], c) :=
  Cursor.span_append (w := []) rfl (by simp) h

/-- Characters that stand for themselves are taken together. -/
theorem quotedFrom_run (h : c.rest = x :: cs) (hx : isQuotedText x = true) :
    quotedFrom isDouble (fuel + 1) acc c =
      quotedFrom isDouble fuel (acc ++ numbers (c.span isQuotedText).1) (c.span isQuotedText).2 := by
  simp only [isQuotedText, Bool.not_eq_true', Bool.or_eq_false_iff, decide_eq_false_iff_not] at hx
  obtain ⟨⟨⟨⟨⟨hq, hd⟩, hs⟩, _⟩, _⟩, hb⟩ := hx
  have hne : (c.span isQuotedText).1.isEmpty = false := by
    rw [span_cons h (by simp [isQuotedText, *]) hb]
    rfl
  rw [quotedFrom]
  simp only [Cursor.peek?, h, List.head?_cons, hq, hd, hs, decide_false, Bool.false_or, Bool.false_and,
    Bool.false_eq_true, if_false, hne]

/-- A character that stands for itself may be taken alone: what is taken together with it is taken next. -/
theorem quotedFrom_text (h : c.rest = x :: cs) (hx : isQuotedText x = true) :
    ∃ fuel', fuel ≤ fuel' ∧
      quotedFrom isDouble (fuel + 1) acc c = quotedFrom isDouble fuel' (acc ++ [x.toNat]) c.next := by
  have hb : isBreak x = false := by
    simp only [isQuotedText, Bool.not_eq_true', Bool.or_eq_false_iff] at hx
    exact hx.2
  rw [quotedFrom_run h hx, span_cons h hx hb]
  rcases Decidable.em (∀ y ∈ c.next.rest.head?, isQuotedText y = false) with hstop | hgo
  · exact ⟨fuel, Nat.le_refl _, by rw [span_stop hstop]; rfl⟩
  · obtain ⟨y, ys, hy, hyt⟩ : ∃ y ys, c.next.rest = y :: ys ∧ isQuotedText y = true := by
      cases hr : c.next.rest with
      | nil => simp [hr] at hgo
      | cons y ys => exact ⟨y, ys, rfl, by simpa [hr] using hgo⟩
    refine ⟨fuel + 1, Nat.le_succ _, ?_⟩
    rw [quotedFrom_run hy hyt]
    simp [numbers]

/-- Whether a character is white space of a line. -/
def isSpacing (c : Char) : Bool := c = ' ' || c = '\t'

/-- White space between characters of a line is taken together. -/
theorem quotedFrom_spacing (h : c.rest = x :: cs) (hx : isSpacing x = true)
    (hcs : ∃ y, (c.span isSpacing).2.rest.head? = some y ∧ isBreak y = false) :
    quotedFrom isDouble (fuel + 1) acc c =
      quotedFrom isDouble fuel (acc ++ numbers (c.span isSpacing).1) (c.span isSpacing).2 := by
  obtain ⟨y, hy, hyb⟩ := hcs
  have hline : (c.span isSpacing).2.lineBreak? = none :=
    Cursor.lineBreak?_none (by rw [hy]; simpa using hyb)
  have hrest : (c.span isSpacing).2.rest.isEmpty = false := by
    cases hr : (c.span isSpacing).2.rest with
    | nil => simp [hr] at hy
    | cons => rfl
  have hgap : quotedGap c = some (c.span isSpacing) := by
    have hspan : (c.span fun ch => ch = ' ' || ch = '\t') = c.span isSpacing := rfl
    simp only [quotedGap, hspan, hline, hrest, Bool.false_eq_true, if_false]
  have hstop : c.span isQuotedText = ([], c) := by
    refine span_stop ?_
    rw [h]
    simp only [isSpacing, Bool.or_eq_true, decide_eq_true_eq] at hx
    rcases hx with rfl | rfl <;> simp [isQuotedText]
  have hplain : x ≠ '\'' ∧ x ≠ '"' ∧ x ≠ '\\' := by
    simp only [isSpacing, Bool.or_eq_true, decide_eq_true_eq] at hx
    rcases hx with rfl | rfl <;> decide
  rw [quotedFrom]
  simp only [Cursor.peek?, h, List.head?_cons, hplain, decide_false, Bool.or_false, Bool.false_and, Bool.false_eq_true,
    if_false, hstop, List.isEmpty_nil, if_true, hgap, Option.bind_eq_bind, Option.bind_some]

/-- White space between characters of a line may be taken one by one. -/
theorem quotedFrom_space (h : c.rest = x :: cs) (hx : isSpacing x = true)
    (hcs : ∃ y, (c.span isSpacing).2.rest.head? = some y ∧ isBreak y = false) :
    ∃ fuel', fuel ≤ fuel' ∧
      quotedFrom isDouble (fuel + 1) acc c = quotedFrom isDouble fuel' (acc ++ [x.toNat]) c.next := by
  have hb : isBreak x = false := by
    simp only [isSpacing, Bool.or_eq_true, decide_eq_true_eq] at hx
    rcases hx with rfl | rfl <;> decide
  have hspan := span_cons h hx hb
  rw [quotedFrom_spacing h hx hcs, hspan]
  rw [hspan] at hcs
  rcases Decidable.em (∀ y ∈ c.next.rest.head?, isSpacing y = false) with hstop | hgo
  · exact ⟨fuel, Nat.le_refl _, by rw [span_stop hstop]; rfl⟩
  · obtain ⟨y, ys, hy, hyt⟩ : ∃ y ys, c.next.rest = y :: ys ∧ isSpacing y = true := by
      cases hr : c.next.rest with
      | nil => simp [hr] at hgo
      | cons y ys => exact ⟨y, ys, rfl, by simpa [hr] using hgo⟩
    refine ⟨fuel + 1, Nat.le_succ _, ?_⟩
    rw [quotedFrom_spacing hy hyt hcs]
    simp [numbers]

/-- The character after white space of a line that does not end in white space. -/
theorem head_span_spacing {v r : List Char} {q : Char} (h : c.rest = v ++ q :: r) (hv : ∀ y ∈ v, isInLine y = true)
    (hq : isSpacing q = false ∧ isBreak q = false) :
    ∃ y, (c.span isSpacing).2.rest.head? = some y ∧ isBreak y = false := by
  induction v generalizing c with
  | nil =>
    have hs : c.span isSpacing = ([], c) := span_stop (by rw [h]; intro y hy; cases hy; exact hq.1)
    exact ⟨q, by rw [hs, h]; rfl, hq.2⟩
  | cons x v ih =>
    have hx := isBreak_of_isInLine (hv x List.mem_cons_self)
    rcases Decidable.em (isSpacing x = true) with hsp | hsp
    · rw [span_cons h hsp hx]
      exact ih (next_rest h hx) fun y hy => hv y (List.mem_cons_of_mem _ hy)
    · have hs : c.span isSpacing = ([], c) := span_stop (by rw [h]; intro y hy; cases hy; simpa using hsp)
      exact ⟨x, by rw [hs, h]; rfl, hx⟩

theorem isSpacing_quote (isDouble : Bool) :
    isSpacing (Writing.quote isDouble) = false ∧ isBreak (Writing.quote isDouble) = false := by
  cases isDouble <;> decide

/-- The closing quote. -/
theorem quotedFrom_close {r : List Char} (h : c.rest = Writing.quote isDouble :: r) (hr : r.head? ≠ some '\'') :
    quotedFrom isDouble (fuel + 1) acc c = some (acc, c.next) := by
  have hi : innerQuote isDouble (Writing.quote isDouble :: r) = none := by
    cases isDouble with
    | true => rfl
    | false =>
      cases r with
      | nil => rfl
      | cons y r =>
        have hy : y ≠ '\'' := fun hy => hr (by rw [hy]; rfl)
        simp [Writing.quote, innerQuote, hy]
  rw [quotedFrom]
  simp only [Cursor.peek?, h, List.head?_cons]
  cases isDouble <;> simp_all [Writing.quote]

variable (fuel acc) in
/-- A character of a line that is no closing quote and no escape is read for itself. -/
theorem quotedFrom_char {r : List Char} (h : c.rest = x :: (cs ++ Writing.quote isDouble :: r))
    (hcs : ∀ y ∈ x :: cs, isInLine y = true)
    (hx : x ≠ (if isDouble then '"' else '\'') ∧ ¬(isDouble = true ∧ x = '\\')) :
    ∃ fuel', fuel ≤ fuel' ∧
      quotedFrom isDouble (fuel + 1) acc c = quotedFrom isDouble fuel' (acc ++ [x.toNat]) c.next := by
  have hb := isBreak_of_isInLine (hcs x List.mem_cons_self)
  rcases Decidable.em (isQuotedText x = true) with ht | ht
  · exact quotedFrom_text h ht
  rcases Decidable.em (isSpacing x = true) with hsp | hsp
  · exact quotedFrom_space h hsp (head_span_spacing (v := x :: cs) h hcs (isSpacing_quote isDouble))
  -- What is left are the quotes and the backslash where they mean nothing.
  have hleft : x = '\'' ∨ x = '"' ∨ x = '\\' := by
    simp only [isSpacing, Bool.or_eq_true, decide_eq_true_eq, not_or] at hsp
    refine Decidable.byContradiction fun hne => ?_
    simp only [not_or] at hne
    exact ht (by simp [isQuotedText, hsp, hb, hne])
  refine ⟨fuel, Nat.le_refl _, ?_⟩
  rw [quotedFrom]
  simp only [Cursor.peek?, h, List.head?_cons]
  rcases hleft with rfl | rfl | rfl
  · obtain rfl : isDouble = true := by
      cases isDouble with
      | true => rfl
      | false => exact absurd rfl hx.1
    have hi : innerQuote true ('\'' :: (cs ++ Writing.quote true :: r)) = some ('\'', 1) := by
      cases cs with
      | nil => rfl
      | cons y cs => rw [List.cons_append, innerQuote.eq_def]; split <;> simp_all
    simp [hi, Cursor.advance]
  · obtain rfl : isDouble = false := by
      cases isDouble with
      | true => exact absurd rfl hx.1
      | false => rfl
    simp [innerQuote, Cursor.advance]
  · obtain rfl : isDouble = false := by
      cases isDouble with
      | true => exact absurd ⟨rfl, rfl⟩ hx.2
      | false => rfl
    simp

/-- An escape is read as what it stands for. -/
theorem quotedFrom_escape {d : Cursor} {codes : List Nat} (h : c.rest = '\\' :: cs)
    (he : escaped c.next = some (codes, d)) :
    quotedFrom true (fuel + 1) acc c = quotedFrom true fuel (acc ++ codes) d := by
  rw [quotedFrom]
  simp [Cursor.peek?, h, he]

variable (fuel acc) in
/-- A text between quotes is read as what it spells, whatever follows the closing quote but another quote. -/
theorem quotedFrom_spells {inner r : List Char} {codes : List Nat} (hs : Spells isDouble inner codes)
    (hfuel : inner.length < fuel) (h : c.rest = inner ++ Writing.quote isDouble :: r) (hr : r.head? ≠ some '\'') :
    ∃ d, quotedFrom isDouble fuel acc c = some (acc ++ codes, d) ∧ d.rest = r := by
  induction hs generalizing acc c fuel with
  | nil =>
    obtain ⟨fuel, rfl⟩ : ∃ n, fuel = n + 1 := ⟨fuel - 1, by omega⟩
    exact ⟨_, by rw [quotedFrom_close h hr, List.append_nil], next_rest h (isSpacing_quote isDouble).2⟩
  | @char x cs codes hin hx hs ih =>
    obtain ⟨fuel, rfl⟩ : ∃ n, fuel = n + 1 := ⟨fuel - 1, by omega⟩
    obtain ⟨fuel', hf, he⟩ := quotedFrom_char fuel acc h
      (by simpa using ⟨hin, hs.inLine⟩) hx
    obtain ⟨d, hd, hdr⟩ := ih fuel' (acc ++ [x.toNat]) (c := c.next)
      (by rw [List.length_cons] at hfuel; omega) (next_rest h (isBreak_of_isInLine hin))
    exact ⟨d, by rw [he, hd]; simp, hdr⟩
  | @doubled cs codes hd hs ih =>
    subst hd
    obtain ⟨fuel, rfl⟩ : ∃ n, fuel = n + 1 := ⟨fuel - 1, by omega⟩
    have hquotes : ∀ y ∈ ['\'', '\''], isBreak y = false := fun y hy => by
      have hy : y = '\'' := by simpa using hy
      rw [hy]
      decide
    have h2 := Cursor.past_advance (w := ['\'', '\'']) h hquotes
    obtain ⟨d, hd, hdr⟩ := ih fuel (acc ++ ['\''.toNat]) (c := c.advance 2)
      (by simp only [List.length_cons] at hfuel; omega) h2.rest
    refine ⟨d, ?_, hdr⟩
    rw [quotedFrom]
    simp only [Cursor.peek?, h, List.cons_append, List.head?_cons, decide_true, Bool.true_or, if_true, innerQuote,
      Bool.false_eq_true, if_false, hd]
    simp
  | @escape x y cs codes hd hy hs ih =>
    subst hd
    obtain ⟨fuel, rfl⟩ : ∃ n, fuel = n + 1 := ⟨fuel - 1, by omega⟩
    have h1 : c.next.rest = x :: (cs ++ Writing.quote true :: r) := next_rest h (by decide)
    have he : escaped c.next = some ([y.toNat], c.next.next) := by
      simp only [escaped, h1, hy]
    obtain ⟨d, hd, hdr⟩ := ih fuel (acc ++ [y.toNat]) (c := c.next.next)
      (by simp only [List.length_cons] at hfuel; omega) (next_rest h1 (isBreak_of_isInLine (isInLine_of_escape? hy)))
    exact ⟨d, by rw [quotedFrom_escape h he, hd]; simp, hdr⟩
  | @code x width n ds cs codes hd hw hlen hn hs ih =>
    subst hd
    obtain ⟨fuel, rfl⟩ : ∃ n, fuel = n + 1 := ⟨fuel - 1, by omega⟩
    have h1 : c.next.rest = (x :: ds) ++ (cs ++ Writing.quote true :: r) := by
      simpa using next_rest h (by decide)
    obtain ⟨hnone, hxin⟩ := escape?_of_escapeWidth? hw
    have h2 := Cursor.past_advance h1 fun y hy => by
      rcases List.mem_cons.mp hy with rfl | hy
      · exact isBreak_of_isInLine hxin
      · exact isBreak_of_isInLine (isInLine_of_escapeCode? hlen hn y hy)
    have hcode : escapeCode? width (ds ++ (cs ++ Writing.quote true :: r)) = some n :=
      (escapeCode?_append hlen).trans hn
    have he : escaped c.next = some ([n], c.next.advance (width + 1)) := by
      simp only [escaped, h1, List.cons_append, hnone, hw, hcode, Option.map_some]
    rw [List.length_cons, hlen] at h2
    obtain ⟨d, hd, hdr⟩ := ih fuel (acc ++ [n]) (c := c.next.advance (width + 1))
      (by simp only [List.length_cons, List.length_append] at hfuel; omega) h2.rest
    exact ⟨d, by rw [quotedFrom_escape h he, hd]; simp, hdr⟩

/-- A text between quotes is read as what it spells. -/
theorem quoted_spells {inner r : List Char} {codes : List Nat} (hs : Spells isDouble inner codes)
    (h : c.rest = Writing.quote isDouble :: (inner ++ Writing.quote isDouble :: r)) (hr : r.head? ≠ some '\'') :
    ∃ d, quoted isDouble c = some (codes, d) ∧ d.rest = r := by
  have hn := next_rest h (isSpacing_quote isDouble).2
  obtain ⟨d, hd, hdr⟩ := quotedFrom_spells (c.rest.length + 1) [] hs
    (by rw [h]; simp only [List.length_cons, List.length_append]; omega) hn hr
  exact ⟨d, hd, hdr⟩

end Scalar

end Quoted

end ChatRelay.Yaml
