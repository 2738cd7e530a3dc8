import ChatRelay.Preferences.AgentLine
import ChatRelay.Proofs.Yaml.Lexing

/-!
# The lines that the editor sees

- `OneLine`: characters without the end of a line, as all lines of a text are (`oneLine_splitLines`);
- `splitLines_joinLines`: lines that were put together come apart again;
- `Passed`: a line that the editor takes neither for a section nor for a name, as remarks and entries under other keys
  are (`passed_remark`, `passed_entry`);
- `sectionName_headline`: the editor takes the line of a heading for its section;
- `replaceFirst_passed`, `insertBelow_none`: the editor goes over lines that it passes.
-/

namespace ChatRelay.AgentLine

open Text (isBlank strip)
open Yaml (isInLine Remark Word)

/-! ## Lines and their ends -/

theorem isLineEnd_of_isInLine {c : Char} (h : isInLine c = true) : Text.isLineEnd c = false := by
  have hlf : c.toNat ≠ 10 := fun he => by
    have hc : c = '\n' := by rw [← Char.ofNat_toNat c, he]
    subst hc
    exact absurd h (by decide)
  have hcr : c.toNat ≠ 13 := fun he => by
    have hc : c = '\r' := by rw [← Char.ofNat_toNat c, he]
    subst hc
    exact absurd h (by decide)
  simp only [isInLine, Yaml.Token.isAllowed, Yaml.isBreak, Bool.and_eq_true, Bool.or_eq_true, decide_eq_true_eq,
    Bool.not_eq_true', Bool.or_eq_false_iff, decide_eq_false_iff_not] at h
  simp only [Text.isLineEnd, Bool.or_eq_false_iff, Bool.and_eq_false_iff, decide_eq_false_iff_not, beq_eq_false_iff_ne]
  omega

/-- Characters on one line. -/
def OneLine (line : List Char) : Prop := ∀ c ∈ line, Text.isLineEnd c = false

instance (line : List Char) : Decidable (OneLine line) :=
  decidable_of_iff ((line.all fun c => !Text.isLineEnd c) = true) (by simp [OneLine])

theorem oneLine_append {line more : List Char} : OneLine (line ++ more) ↔ OneLine line ∧ OneLine more :=
  List.forall_mem_append

theorem splitLinesFrom_line {line : List Char} (h : OneLine line) (acc rest : List Char) :
    Text.splitLinesFrom acc (line ++ '\n' :: rest) = (acc.reverse ++ line) :: Text.splitLinesFrom [] rest := by
  induction line generalizing acc with
  | nil => simp [Text.splitLinesFrom, Text.isLineEnd]
  | cons c line ih =>
    have hend := h c List.mem_cons_self
    have hc : c ≠ '\r' := fun he => by
      rw [he] at hend
      exact absurd hend (by decide)
    rw [List.cons_append, Text.splitLinesFrom.eq_3 _ _ _ fun _ he _ => hc he, hend,
      if_neg Bool.false_ne_true, ih fun x hx => h x (List.mem_cons_of_mem _ hx)]
    simp

/-- Lines that were put together come apart again. -/
theorem splitLines_joinLines {lines : List (List Char)} (h : ∀ line ∈ lines, OneLine line) :
    Text.splitLines (joinLines lines) = lines := by
  induction lines with
  | nil => rfl
  | cons line lines ih =>
    have hjoin : joinLines (line :: lines) = line ++ '\n' :: joinLines lines := by simp [joinLines]
    rw [Text.splitLines, hjoin, splitLinesFrom_line (h line List.mem_cons_self)]
    exact congrArg _ (ih fun x hx => h x (List.mem_cons_of_mem _ hx))

/-- A text has one list of lines only. -/
theorem joinLines_inj {lines lines' : List (List Char)} (h : ∀ line ∈ lines, OneLine line)
    (h' : ∀ line ∈ lines', OneLine line) : joinLines lines = joinLines lines' ↔ lines = lines' := by
  constructor
  · intro heq
    rw [← splitLines_joinLines h, ← splitLines_joinLines h', heq]
  · exact congrArg joinLines

theorem oneLine_splitLinesFrom {acc cs : List Char} (h : OneLine acc) :
    ∀ line ∈ Text.splitLinesFrom acc cs, OneLine line := by
  have hacc : ∀ {acc : List Char}, OneLine acc → OneLine acc.reverse := fun h c hc => h c (List.mem_reverse.1 hc)
  have hnil : OneLine [] := fun c hc => absurd hc List.not_mem_nil
  fun_induction Text.splitLinesFrom acc cs with
  | case1 acc hempty => simp
  | case2 acc hempty => simpa using hacc h
  | case3 acc cs ih => exact List.forall_mem_cons.2 ⟨hacc h, ih hnil⟩
  | case4 acc c cs hcr hend ih => exact List.forall_mem_cons.2 ⟨hacc h, ih hnil⟩
  | case5 acc c cs hcr hend ih => exact ih (List.forall_mem_cons.2 ⟨Bool.eq_false_iff.2 hend, h⟩)

/-- No line has the end of a line in it. -/
theorem oneLine_splitLines (cs : List Char) : ∀ line ∈ Text.splitLines cs, OneLine line :=
  oneLine_splitLinesFrom fun _ hc => absurd hc List.not_mem_nil

/-! ## Blanks -/

theorem isBlank_of_isNameChar {c : Char} (h : Yaml.Token.Lexer.isNameChar c = true) : isBlank c = false := by
  have := Yaml.isNameChar_bounds h
  simp only [isBlank, Bool.or_eq_false_iff, Bool.and_eq_false_iff, decide_eq_false_iff_not, beq_eq_false_iff_ne]
  omega

/-- A remark without its white space is nothing or a comment. -/
theorem stripStart_remark (r : Remark) : r.text.dropWhile isBlank = (r.comment.map ('#' :: ·)).getD [] := by
  have hspaces : ∀ c ∈ List.replicate r.spaces ' ', isBlank c = true := fun c hc => by
    rw [(List.mem_replicate.mp hc).2]
    rfl
  rw [Remark.text, List.dropWhile_append_of_pos hspaces]
  cases r.comment <;> rfl

theorem drop_takeWhile (p : Char → Bool) (cs : List Char) : cs.drop (cs.takeWhile p).length = cs.dropWhile p := by
  have h : (cs.takeWhile p ++ cs.dropWhile p).drop (cs.takeWhile p).length = cs.dropWhile p := List.drop_left
  rwa [List.takeWhile_append_dropWhile] at h

/-! ## Lines that are passed -/

/-- The editor takes a line neither for a section nor for a name. -/
structure Passed (line : List Char) : Prop where
  inside : beginsSection line = false
  nameless : nameEntryOn? line = none

theorem passed_remark (r : Remark) : Passed r.text where
  inside := by
    rw [Remark.text]
    cases r.spaces with
    | zero => cases r.comment <;> rfl
    | succ n => rfl
  nameless := by
    simp only [drop_takeWhile, stripStart_remark, nameEntryOn?]
    cases r.comment <;> simp [dropWord]

/-- The white space of an indented key ends where the key begins. -/
theorem blanks_indented (column : Nat) (w : Word) (cs : List Char) :
    (List.replicate column ' ' ++ (w.chars ++ cs)).takeWhile isBlank = List.replicate column ' ' := by
  have hspaces : ∀ c ∈ List.replicate column ' ', isBlank c = true := fun c hc => by
    rw [(List.mem_replicate.mp hc).2]
    rfl
  have hfirst := isBlank_of_isNameChar w.isNameChar_first
  rw [List.takeWhile_append_of_pos hspaces, Word.chars, List.cons_append, List.takeWhile_cons, hfirst]
  simp

/-- A key stands in front of a colon as nothing but itself. -/
theorem isPrefixOf_key {w v : Word} {cs : List Char} :
    (v.chars ++ [':']).isPrefixOf (w.chars ++ ':' :: cs) = true ↔ w.chars = v.chars := by
  have hcolon : ∀ w : Word, ':' ∉ w.chars := fun w hw => by
    have := w.isNameChar_of_mem hw
    exact absurd this (by decide)
  rw [List.isPrefixOf_iff_prefix]
  constructor
  · rintro ⟨t, ht⟩
    have hends := congrArg (List.takeWhile (· ≠ ':')) ht
    have hkey : ∀ (w : Word) (cs : List Char), (w.chars ++ ':' :: cs).takeWhile (· ≠ ':') = w.chars := fun w cs => by
      rw [List.takeWhile_append_of_pos fun c hc => by
        have : c ≠ ':' := fun he => hcolon w (he ▸ hc)
        simpa using this]
      simp
    rw [List.append_assoc, List.singleton_append, hkey, hkey] at hends
    exact hends.symm
  · intro h
    exact ⟨cs, by rw [h]; simp⟩

/-- The word for the name of the agent. -/
def nameWord : Word := ⟨'n', "ame".toList, by decide, by decide, by decide, by decide⟩

/-- The word for the section of the agent. -/
def agentWord : Word := ⟨'a', "gent".toList, by decide, by decide, by decide, by decide⟩

/-- The editor finds a name exactly under its key. -/
theorem nameEntryOn?_indented (column : Nat) (w : Word) (cs : List Char) :
    nameEntryOn? (List.replicate (column + 1) ' ' ++ (w.chars ++ ':' :: cs)) =
      if w.chars = nameWord.chars then some (List.replicate (column + 1) ' ', cs) else none := by
  have hdrop : (List.replicate (column + 1) ' ' ++ (w.chars ++ ':' :: cs)).drop
      (List.replicate (column + 1) ' ').length = w.chars ++ ':' :: cs := List.drop_left
  have hempty : (List.replicate (column + 1) ' ').isEmpty = false := rfl
  simp only [blanks_indented, hdrop, hempty, Bool.false_eq_true, if_false, dropWord, nameEntryOn?]
  have hname : "name:".toList = nameWord.chars ++ [':'] := rfl
  rw [hname]
  rcases Decidable.em (w.chars = nameWord.chars) with hw | hw
  · rw [if_pos (isPrefixOf_key.mpr hw), if_pos hw, hw]
    rfl
  · rw [if_neg fun h => hw (isPrefixOf_key.mp h), if_neg hw]
    rfl

/-- An entry under another key is passed. -/
theorem passed_entry {column : Nat} {e : Yaml.Entry} (h : e.key.chars ≠ nameWord.chars) :
    ∀ line ∈ e.lines (column + 1), Passed line := by
  intro line hline
  rcases List.mem_cons.mp hline with rfl | hline
  · exact ⟨rfl, by rw [nameEntryOn?_indented, if_neg h]⟩
  · obtain ⟨r, -, rfl⟩ := List.mem_map.mp hline
    exact passed_remark r

/-- An entry begins no section. -/
theorem inside_entry (column : Nat) (e : Yaml.Entry) : ∀ line ∈ e.lines (column + 1), beginsSection line = false := by
  intro line hline
  rcases List.mem_cons.mp hline with rfl | hline
  · rfl
  · obtain ⟨r, -, rfl⟩ := List.mem_map.mp hline
    exact (passed_remark r).inside

/-! ## Headings -/

/-- The first line of a section. -/
def headline (w : Word) (r : Remark) : List Char := w.chars ++ ':' :: r.text

theorem beginsSection_headline (w : Word) (r : Remark) : beginsSection (headline w r) = true := by
  have hfirst := isBlank_of_isNameChar w.isNameChar_first
  have hhash : w.first ≠ '#' := fun he => by
    have := w.isNameChar_first
    rw [he] at this
    exact absurd this (by decide)
  simp [headline, Word.chars, beginsSection, hfirst, hhash]

/-- The editor takes the line of a heading for its section. -/
theorem sectionName_headline (w : Word) (r : Remark) : sectionName (headline w r) = w.chars ++ [':'] := by
  have hkey : ∀ c ∈ w.chars ++ [':'], (decide (c ≠ '#')) = true := fun c hc => by
    rcases List.mem_append.mp hc with hc | hc
    · have hname := w.isNameChar_of_mem hc
      have : c ≠ '#' := fun he => by
        rw [he] at hname
        exact absurd hname (by decide)
      simpa using this
    · rw [List.mem_singleton.mp hc]
      rfl
  have hspaces : ∀ c ∈ List.replicate r.spaces ' ', (decide (c ≠ '#')) = true := fun c hc => by
    rw [(List.mem_replicate.mp hc).2]
    rfl
  have hbefore : (headline w r).takeWhile (· ≠ '#') = w.chars ++ [':'] ++ List.replicate r.spaces ' ' := by
    rw [headline, ← List.singleton_append, ← List.append_assoc, List.takeWhile_append_of_pos hkey, Remark.text,
      List.takeWhile_append_of_pos hspaces]
    cases r.comment <;> simp
  have hfirst := isBlank_of_isNameChar w.isNameChar_first
  have hstart : Text.stripStart (w.chars ++ [':'] ++ List.replicate r.spaces ' ') =
      w.chars ++ [':'] ++ List.replicate r.spaces ' ' := by
    rw [Text.stripStart, Word.chars, List.cons_append, List.cons_append, List.dropWhile_cons_of_neg (by simp [hfirst])]
  have hend : Text.stripEnd (w.chars ++ [':'] ++ List.replicate r.spaces ' ') = w.chars ++ [':'] := by
    have hblank : ∀ c ∈ List.replicate r.spaces ' ', isBlank c = true := fun c hc => by
      rw [(List.mem_replicate.mp hc).2]
      rfl
    rw [Text.stripEnd, List.reverse_append, List.reverse_replicate, List.dropWhile_append_of_pos hblank,
      List.reverse_append, List.reverse_singleton, List.singleton_append, List.dropWhile_cons_of_neg (by decide)]
    simp
  rw [sectionName, hbefore, strip, hstart, hend]

/-- The section of the agent is told by its name. -/
theorem sectionName_eq_agent (w : Word) (r : Remark) :
    sectionName (headline w r) = agentSection ↔ w.chars = agentWord.chars := by
  rw [sectionName_headline, show agentSection = agentWord.chars ++ [':'] from rfl, List.append_cancel_right_eq]

/-! ## Going over lines -/

section Going

variable {value entry : List Char} {inAgent : Bool} {line : List Char} {lines rest : List (List Char)}

/-- The editor goes over lines that it passes, and over all lines outside the section of the agent that begin none. -/
theorem replaceFirst_passed (h : ∀ line ∈ lines, beginsSection line = false)
    (hname : inAgent = true → ∀ line ∈ lines, nameEntryOn? line = none) :
    replaceFirst value inAgent (lines ++ rest) = (replaceFirst value inAgent rest).map (lines ++ ·) := by
  induction lines with
  | nil => simp
  | cons line lines ih =>
    have hline := h line List.mem_cons_self
    have hnone : (if inAgent then nameEntryOn? line else none) = none := by
      split
      · exact hname ‹_› line List.mem_cons_self
      · rfl
    have hih := ih (fun x hx => h x (List.mem_cons_of_mem _ hx)) fun ha x hx => hname ha x (List.mem_cons_of_mem _ hx)
    simp only [List.cons_append, replaceFirst, hline, Bool.false_eq_true, if_false, hnone, hih, Option.map_map]
    rfl

theorem replaceFirst_headline (w : Word) (r : Remark) :
    replaceFirst value inAgent (headline w r :: rest) =
      (replaceFirst value (w.chars = agentWord.chars) rest).map (headline w r :: ·) := by
  simp only [replaceFirst, beginsSection_headline, if_true, sectionName_eq_agent]

/-- No line is put below other lines than the last heading of the agent. -/
theorem insertBelow_none (h : ∀ line ∈ lines, isHeader line = false) : insertBelow entry lines = none := by
  induction lines with
  | nil => rfl
  | cons line lines ih =>
    simp [insertBelow, ih fun x hx => h x (List.mem_cons_of_mem _ hx), h line List.mem_cons_self]

theorem insertBelow_header (hline : isHeader line = true) (h : ∀ line ∈ rest, isHeader line = false) :
    insertBelow entry (lines ++ line :: rest) = some (lines ++ line :: entry :: rest) := by
  induction lines with
  | nil => simp [insertBelow, insertBelow_none h, hline]
  | cons x lines ih => simp [insertBelow, ih]

theorem isHeader_headline (w : Word) (r : Remark) : isHeader (headline w r) = decide (w.chars = agentWord.chars) := by
  simp [isHeader, beginsSection_headline, sectionName_eq_agent]

theorem isHeader_inside (h : beginsSection line = false) : isHeader line = false := by simp [isHeader, h]

end Going

end ChatRelay.AgentLine
