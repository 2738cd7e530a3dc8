import ChatRelay.Proofs.Preferences.Naming

/-!
# The place where the agent is named

The editor goes over the lines of a file once and changes one place. The place is told here without the editor: by the
headings of the agent's sections, by the lines with a name in them, and by the value that stands behind a name.

- `Value`: a value and what stands behind it, which is what the editor leaves (`exists_value`,
  `afterValue_of_value`);
- `NameLine`: the parts of a line with a name, which the editor finds (`exists_nameLine`, `NameLine.entry`);
- `IsHeading`, `InAgent`: the headings of the agent, and lines whose last section is one of the agent;
- `Named`: a line with a name stands in a section of the agent;
- `editLines_named`, `editLines_headed`, `editLines_bare`: what the editor does where there is such a line, where there
  is only a heading, and where there is none (`lines_cases`);
- `Place`: what stands around the name then, which does not depend on the name (`exists_place`).
-/

namespace ChatRelay.AgentLine

open Text (isBlank)

/-! ## Values -/

/-- Whether a character is a quote. -/
def isQuote (c : Char) : Bool := c = '"' || c = '\''

/-- A value and what stands behind it: a text between two quotes of one kind, or, where no quote is closed, the
characters up to the next blank or comment. -/
inductive Value : List Char → List Char → Prop
  | quoted {q : Char} {inner behind : List Char} : isQuote q = true → q ∉ inner → Value (q :: (inner ++ [q])) behind
  | bare {token behind : List Char} : (∀ c ∈ token, isBare c = true) → (∀ c ∈ behind.head?, isBare c = false) →
      (∀ q rest, isQuote q = true → token ++ behind = q :: rest → q ∉ rest) → Value token behind

theorem afterQuote?_eq_some {q : Char} {cs rest : List Char} :
    afterQuote? q cs = some rest ↔ ∃ inner, q ∉ inner ∧ cs = inner ++ q :: rest := by
  induction cs with
  | nil => simp [afterQuote?]
  | cons c cs ih =>
    by_cases hc : c = q
    · subst hc
      constructor
      · intro h
        obtain rfl : cs = rest := by simpa [afterQuote?] using h
        exact ⟨[], List.not_mem_nil, rfl⟩
      · rintro ⟨inner, hinner, heq⟩
        cases inner with
        | nil =>
          obtain rfl : cs = rest := by simpa using heq
          simp [afterQuote?]
        | cons x inner =>
          obtain ⟨rfl, -⟩ := List.cons.inj heq
          exact absurd List.mem_cons_self hinner
    · have hstep : afterQuote? q (c :: cs) = afterQuote? q cs := by simp [afterQuote?, hc]
      rw [hstep, ih]
      constructor
      · rintro ⟨inner, hinner, rfl⟩
        exact ⟨c :: inner, by simp [hinner, Ne.symm hc], rfl⟩
      · rintro ⟨inner, hinner, heq⟩
        cases inner with
        | nil => exact absurd (List.cons.inj heq).1 hc
        | cons x inner =>
          obtain ⟨rfl, rfl⟩ := List.cons.inj heq
          exact ⟨inner, fun h => hinner (List.mem_cons_of_mem _ h), rfl⟩

theorem afterQuote?_eq_none {q : Char} {cs : List Char} : afterQuote? q cs = none ↔ q ∉ cs := by
  constructor
  · intro h hq
    obtain ⟨left, hleft, -⟩ := afterQuote?_append hq []
    rw [hleft] at h
    cases h
  · intro h
    cases hq : afterQuote? q cs with
    | none => rfl
    | some rest =>
      obtain ⟨inner, -, rfl⟩ := afterQuote?_eq_some.1 hq
      exact absurd (List.mem_append_right _ List.mem_cons_self) h

theorem afterValue_quote {q : Char} (h : isQuote q = true) (rest : List Char) :
    afterValue (q :: rest) = (afterQuote? q rest).getD ((q :: rest).dropWhile isBare) := by
  simp only [isQuote, Bool.or_eq_true, decide_eq_true_eq] at h
  rcases h with rfl | rfl <;> rfl

/-- Where no quote is closed a value ends at the next blank or comment. -/
theorem afterValue_unquoted {cs : List Char} (h : ∀ q rest, isQuote q = true → cs = q :: rest → q ∉ rest) :
    afterValue cs = cs.dropWhile isBare := by
  cases cs with
  | nil => rfl
  | cons c cs =>
    by_cases hc : isQuote c = true
    · rw [afterValue_quote hc, afterQuote?_eq_none.2 (h c cs hc rfl), Option.getD_none]
    · simp only [isQuote, Bool.or_eq_true, decide_eq_true_eq, not_or] at hc
      simp [afterValue, hc.1, hc.2]

theorem dropWhile_append_of_head? {p : Char → Bool} {xs ys : List Char} (hxs : ∀ c ∈ xs, p c = true)
    (hys : ∀ c ∈ ys.head?, p c = false) : (xs ++ ys).dropWhile p = ys := by
  rw [List.dropWhile_append_of_pos hxs]
  cases ys with
  | nil => rfl
  | cons c ys =>
    have hc : ¬p c = true := by simpa using hys c rfl
    exact List.dropWhile_cons_of_neg hc

theorem head?_dropWhile {p : Char → Bool} {cs : List Char} : ∀ c ∈ (cs.dropWhile p).head?, p c = false := by
  intro c hc
  have h := List.head?_dropWhile_not p cs
  rw [Option.mem_def.1 hc] at h
  simpa using h

/-- What the editor leaves of a text that begins with a value stands behind it. -/
theorem afterValue_of_value {token behind : List Char} (h : Value token behind) :
    afterValue (token ++ behind) = behind := by
  cases h with
  | @quoted q inner _ hq hinner =>
    have hclosed : afterQuote? q (inner ++ q :: behind) = some behind := afterQuote?_eq_some.2 ⟨inner, hinner, rfl⟩
    rw [List.cons_append, List.append_assoc, List.singleton_append, afterValue_quote hq, hclosed, Option.getD_some]
  | bare htoken hbehind hopen => rw [afterValue_unquoted hopen, dropWhile_append_of_head? htoken hbehind]

/-- Every text begins with a value. -/
theorem exists_value (cs : List Char) : ∃ token, cs = token ++ afterValue cs ∧ Value token (afterValue cs) := by
  by_cases h : ∃ q inner rest, isQuote q = true ∧ q ∉ inner ∧ cs = q :: (inner ++ q :: rest)
  · obtain ⟨q, inner, rest, hq, hinner, rfl⟩ := h
    have hvalue : Value (q :: (inner ++ [q])) rest := .quoted hq hinner
    have hcs : q :: (inner ++ q :: rest) = q :: (inner ++ [q]) ++ rest := by simp
    rw [hcs, afterValue_of_value hvalue]
    exact ⟨_, rfl, hvalue⟩
  · have hopen : ∀ q rest, isQuote q = true → cs = q :: rest → q ∉ rest := by
      rintro q rest hq rfl hmem
      obtain ⟨left, hleft, -⟩ := afterQuote?_append hmem []
      obtain ⟨inner, hinner, rfl⟩ := afterQuote?_eq_some.1 hleft
      exact h ⟨q, inner, left, hq, hinner, rfl⟩
    have hcs : cs.takeWhile isBare ++ cs.dropWhile isBare = cs := List.takeWhile_append_dropWhile
    rw [afterValue_unquoted hopen]
    refine ⟨cs.takeWhile isBare, hcs.symm, .bare (fun c hc => ?_) head?_dropWhile ?_⟩
    · exact List.all_eq_true.1 List.all_takeWhile c hc
    · rwa [hcs]

/-! ## Lines with a name -/

/-- The parts of a line with a name: the indentation, the blanks behind the key, the value and what stands behind
it. -/
structure NameLine (line indent blanks token behind : List Char) : Prop where
  text : line = indent ++ ("name:".toList ++ (blanks ++ (token ++ behind)))
  indented : indent ≠ []
  indentation : ∀ c ∈ indent, isBlank c = true
  blank : ∀ c ∈ blanks, isBlank c = true
  flush : ∀ c ∈ (token ++ behind).head?, isBlank c = false
  value : Value token behind

theorem nameEntryOn?_eq_some {line indent rest : List Char} :
    nameEntryOn? line = some (indent, rest) ↔
      line = indent ++ ("name:".toList ++ rest) ∧ indent ≠ [] ∧ ∀ c ∈ indent, isBlank c = true := by
  constructor
  · intro h
    simp only [nameEntryOn?, drop_takeWhile, dropWord] at h
    split at h
    · cases h
    · next hindent =>
      split at h
      · next hword =>
        obtain ⟨rfl, rfl⟩ : line.takeWhile isBlank = indent ∧
            (line.dropWhile isBlank).drop "name:".toList.length = rest := by simpa using h
        obtain ⟨after, hafter⟩ := List.isPrefixOf_iff_prefix.1 hword
        refine ⟨?_, by simpa using hindent, fun c hc => List.all_eq_true.1 List.all_takeWhile c hc⟩
        rw [← hafter, List.drop_left, hafter, List.takeWhile_append_dropWhile]
      · cases h
  · rintro ⟨rfl, hindented, hindent⟩
    have htake : (indent ++ ("name:".toList ++ rest)).takeWhile isBlank = indent := by
      rw [List.takeWhile_append_of_pos hindent]
      simp [show isBlank 'n' = false from rfl]
    have hempty : indent.isEmpty = false := by simpa using hindented
    have hword : "name:".toList.isPrefixOf ("name:".toList ++ rest) = true :=
      List.isPrefixOf_iff_prefix.2 (List.prefix_append _ _)
    simp only [nameEntryOn?, htake, hempty, Bool.false_eq_true, if_false, dropWord, List.drop_left, hword, if_true,
      Option.map_some]

/-- The editor finds a line with a name. -/
theorem NameLine.entry {line indent blanks token behind : List Char} (h : NameLine line indent blanks token behind) :
    nameEntryOn? line = some (indent, blanks ++ (token ++ behind)) :=
  nameEntryOn?_eq_some.2 ⟨h.text, h.indented, h.indentation⟩

/-- What the editor finds is a line with a name. -/
theorem exists_nameLine {line indent rest : List Char} (h : nameEntryOn? line = some (indent, rest)) :
    ∃ blanks token behind, NameLine line indent blanks token behind ∧ rest = blanks ++ (token ++ behind) := by
  obtain ⟨hline, hindented, hindent⟩ := nameEntryOn?_eq_some.1 h
  obtain ⟨token, htoken, hvalue⟩ := exists_value (rest.dropWhile isBlank)
  have hrest : rest.takeWhile isBlank ++ (token ++ afterValue (rest.dropWhile isBlank)) = rest := by
    rw [← htoken, List.takeWhile_append_dropWhile]
  refine ⟨rest.takeWhile isBlank, token, afterValue (rest.dropWhile isBlank), ⟨?_, hindented, hindent, ?_, ?_, hvalue⟩,
    hrest.symm⟩
  · rw [hrest, hline]
  · exact fun c hc => List.all_eq_true.1 List.all_takeWhile c hc
  · rw [← htoken]
    exact head?_dropWhile

/-- The editor leaves what stands behind a value. -/
theorem NameLine.replaced {line indent blanks token behind : List Char} (h : NameLine line indent blanks token behind)
    (value : List Char) :
    replaceValue value indent (blanks ++ (token ++ behind)) = indent ++ "name: ".toList ++ value ++ behind := by
  rw [replaceValue, dropWhile_append_of_head? h.blank h.flush, afterValue_of_value h.value]

/-- A line that begins a section has no name. -/
theorem nameEntryOn?_of_beginsSection {line : List Char} (h : beginsSection line = true) :
    nameEntryOn? line = none := by
  cases line with
  | nil => rfl
  | cons c cs =>
    simp only [beginsSection, Bool.and_eq_true, Bool.not_eq_true'] at h
    simp [nameEntryOn?, h.1]

/-! ## Headings -/

/-- The heading of a section of the agent: the key at the margin, and behind it nothing but white space and a
comment. -/
def IsHeading (line : List Char) : Prop :=
  ∃ blanks comment, line = agentSection ++ (blanks ++ comment) ∧ (∀ c ∈ blanks, isBlank c = true) ∧
    ∀ c ∈ comment.head?, c = '#'

/-- A text without the white space at its end is what stands before it. -/
theorem stripEnd_eq_iff {cs word : List Char} (hword : ∀ c ∈ word.getLast?, isBlank c = false) :
    Text.stripEnd cs = word ↔ ∃ blanks, cs = word ++ blanks ∧ ∀ c ∈ blanks, isBlank c = true := by
  rw [Text.stripEnd]
  constructor
  · rintro rfl
    have h := congrArg List.reverse (List.takeWhile_append_dropWhile (p := isBlank) (l := cs.reverse))
    rw [List.reverse_append, List.reverse_reverse] at h
    refine ⟨(cs.reverse.takeWhile isBlank).reverse, h.symm, fun c hc => ?_⟩
    exact List.all_eq_true.1 List.all_takeWhile c (List.mem_reverse.1 hc)
  · rintro ⟨blanks, rfl, hblanks⟩
    rw [List.reverse_append, dropWhile_append_of_head? (fun c hc => hblanks c (List.mem_reverse.1 hc)),
      List.reverse_reverse]
    rwa [List.head?_reverse]

/-- The editor takes exactly the headings of the agent for such. -/
theorem isHeader_iff {line : List Char} : isHeader line = true ↔ IsHeading line := by
  have hmargin : ∀ {cs : List Char}, beginsSection (agentSection ++ cs) = true := rfl
  have hlast : ∀ c ∈ agentSection.getLast?, isBlank c = false := by rintro c ⟨rfl⟩; rfl
  rw [isHeader, Bool.and_eq_true, decide_eq_true_eq, sectionName, Text.strip]
  constructor
  · rintro ⟨hbegins, hname⟩
    have hstart : Text.stripStart (line.takeWhile (· ≠ '#')) = line.takeWhile (· ≠ '#') := by
      cases line with
      | nil => rfl
      | cons c cs =>
        simp only [beginsSection, Bool.and_eq_true, Bool.not_eq_true', decide_eq_true_eq] at hbegins
        simp [Text.stripStart, hbegins.1, hbegins.2]
    rw [hstart] at hname
    obtain ⟨blanks, hblanks, hblank⟩ := (stripEnd_eq_iff hlast).1 hname
    refine ⟨blanks, line.dropWhile (· ≠ '#'), ?_, hblank, fun c hc => by simpa using head?_dropWhile c hc⟩
    rw [← List.append_assoc, ← hblanks, List.takeWhile_append_dropWhile]
  · rintro ⟨blanks, comment, rfl, hblanks, hcomment⟩
    refine ⟨hmargin, ?_⟩
    have hkey : ∀ c ∈ agentSection, (decide (c ≠ '#')) = true := List.all_eq_true.1 (by decide)
    have hspace : ∀ c ∈ blanks, (decide (c ≠ '#')) = true := by
      intro c hc
      have hne : c ≠ '#' := by
        rintro rfl
        exact absurd (hblanks _ hc) (by decide)
      simpa using hne
    have hends : comment.takeWhile (· ≠ '#') = [] := by
      cases comment with
      | nil => rfl
      | cons c cs => simp [hcomment c rfl]
    have hbefore : (agentSection ++ (blanks ++ comment)).takeWhile (· ≠ '#') = agentSection ++ blanks := by
      rw [List.takeWhile_append_of_pos hkey, List.takeWhile_append_of_pos hspace, hends, List.append_nil]
    rw [hbefore]
    exact (stripEnd_eq_iff hlast).2 ⟨blanks, rfl, hblanks⟩

/-! ## Sections -/

/-- Whether lines that began inside or outside a section of the agent end inside one. -/
def opened (inAgent : Bool) : List (List Char) → Bool
  | [] => inAgent
  | line :: rest => opened (if beginsSection line then sectionName line = agentSection else inAgent) rest

theorem opened_append (inAgent : Bool) (above rest : List (List Char)) :
    opened inAgent (above ++ rest) = opened (opened inAgent above) rest := by
  induction above generalizing inAgent with
  | nil => rfl
  | cons line above ih => exact ih _

theorem opened_header {line : List Char} (h : isHeader line = true) (inAgent : Bool) :
    opened inAgent [line] = true := by
  simp only [isHeader, Bool.and_eq_true] at h
  simpa [opened, h.1] using h.2

/-- The last section of some lines is one of the agent. -/
def InAgent (lines : List (List Char)) : Prop :=
  ∃ above heading between, lines = above ++ heading :: between ∧ IsHeading heading ∧
    ∀ line ∈ between, beginsSection line = false

theorem inAgent_cons {line : List Char} {lines : List (List Char)} :
    InAgent (line :: lines) ↔ InAgent lines ∨ IsHeading line ∧ ∀ x ∈ lines, beginsSection x = false := by
  constructor
  · rintro ⟨above, heading, between, heq, hheading, hbetween⟩
    cases above with
    | nil =>
      obtain ⟨rfl, rfl⟩ := List.cons.inj heq
      exact .inr ⟨hheading, hbetween⟩
    | cons x above =>
      obtain ⟨rfl, rfl⟩ := List.cons.inj heq
      exact .inl ⟨above, heading, between, rfl, hheading, hbetween⟩
  · rintro (⟨above, heading, between, rfl, hheading, hbetween⟩ | ⟨hheading, hbetween⟩)
    · exact ⟨line :: above, heading, between, rfl, hheading, hbetween⟩
    · exact ⟨[], line, lines, rfl, hheading, hbetween⟩

theorem opened_eq_true {inAgent : Bool} {lines : List (List Char)} :
    opened inAgent lines = true ↔
      InAgent lines ∨ inAgent = true ∧ ∀ line ∈ lines, beginsSection line = false := by
  induction lines generalizing inAgent with
  | nil => simp [opened, InAgent]
  | cons line lines ih =>
    rw [opened, ih, inAgent_cons, ← isHeader_iff, isHeader]
    cases hline : beginsSection line <;> simp [hline]

/-- The editor is inside a section of the agent exactly behind lines whose last section is one. -/
theorem opened_iff {lines : List (List Char)} : opened false lines = true ↔ InAgent lines := by
  rw [opened_eq_true]
  simp

/-- A line with a name stands in a section of the agent, for lines that began inside or outside one. -/
def Named (inAgent : Bool) (lines : List (List Char)) : Prop :=
  ∃ above line below, lines = above ++ line :: below ∧ opened inAgent above = true ∧ (nameEntryOn? line).isSome = true

theorem not_named_nil (inAgent : Bool) : ¬Named inAgent [] := by
  rintro ⟨above, line, below, heq, -⟩
  simp at heq

theorem named_cons {inAgent : Bool} {line : List Char} {lines : List (List Char)} :
    Named inAgent (line :: lines) ↔
      inAgent = true ∧ (nameEntryOn? line).isSome = true ∨ Named (opened inAgent [line]) lines := by
  constructor
  · rintro ⟨above, line', below, heq, hopen, hname⟩
    cases above with
    | nil =>
      obtain ⟨rfl, rfl⟩ := List.cons.inj heq
      exact .inl ⟨hopen, hname⟩
    | cons x above =>
      obtain ⟨rfl, rfl⟩ := List.cons.inj heq
      exact .inr ⟨above, line', below, rfl, hopen, hname⟩
  · rintro (⟨hopen, hname⟩ | ⟨above, line', below, rfl, hopen, hname⟩)
    · exact ⟨[], line, lines, rfl, hopen, hname⟩
    · exact ⟨line :: above, line', below, rfl, hopen, hname⟩

theorem named_append {inAgent : Bool} {lines rest : List (List Char)} :
    Named inAgent (lines ++ rest) ↔ Named inAgent lines ∨ Named (opened inAgent lines) rest := by
  induction lines generalizing inAgent with
  | nil => simp [not_named_nil, opened]
  | cons line lines ih =>
    rw [List.cons_append, named_cons, named_cons, ih, ← opened_append, List.singleton_append, or_assoc]

/-- Among lines with a name there is a first one. -/
theorem Named.first {inAgent : Bool} {lines : List (List Char)} (h : Named inAgent lines) :
    ∃ above line below, lines = above ++ line :: below ∧ opened inAgent above = true ∧ ¬Named inAgent above ∧
      (nameEntryOn? line).isSome = true := by
  induction lines generalizing inAgent with
  | nil => exact absurd h (not_named_nil _)
  | cons line lines ih =>
    by_cases hline : inAgent = true ∧ (nameEntryOn? line).isSome = true
    · exact ⟨[], line, lines, rfl, hline.1, not_named_nil _, hline.2⟩
    · obtain ⟨above, line', below, rfl, hopen, habove, hname⟩ := ih ((named_cons.1 h).resolve_left hline)
      refine ⟨line :: above, line', below, rfl, hopen, fun hnamed => ?_, hname⟩
      exact (named_cons.1 hnamed).elim hline habove

/-- The first name stands on a line with all of its parts. -/
theorem Named.first_line {inAgent : Bool} {lines : List (List Char)} (h : Named inAgent lines) :
    ∃ above line below indent blanks token behind, lines = above ++ line :: below ∧ opened inAgent above = true ∧
      ¬Named inAgent above ∧ NameLine line indent blanks token behind := by
  obtain ⟨above, line, below, rfl, hopen, habove, hname⟩ := h.first
  obtain ⟨⟨indent, after⟩, hentry⟩ := Option.isSome_iff_exists.1 hname
  obtain ⟨blanks, token, behind, hline, -⟩ := exists_nameLine hentry
  exact ⟨above, line, below, indent, blanks, token, behind, rfl, hopen, habove, hline⟩

/-- Without a heading of the agent there is no section of it. -/
theorem not_opened {lines : List (List Char)} (h : ∀ line ∈ lines, ¬IsHeading line) : opened false lines = false := by
  rw [← Bool.not_eq_true, opened_iff]
  rintro ⟨above, heading, between, rfl, hheading, -⟩
  exact h heading (by simp) hheading

theorem not_named {lines : List (List Char)} (h : ∀ line ∈ lines, ¬IsHeading line) : ¬Named false lines := by
  rintro ⟨above, line, below, rfl, hopen, -⟩
  rw [not_opened fun x hx => h x (List.mem_append_left _ hx)] at hopen
  cases hopen

/-! ## The editor -/

section Editor

variable {value : List Char} {inAgent : Bool} {above below rest lines : List (List Char)} {line : List Char}

/-- The editor goes over lines without a name in a section of the agent. -/
theorem replaceFirst_append (h : ¬Named inAgent above) :
    replaceFirst value inAgent (above ++ rest) =
      (replaceFirst value (opened inAgent above) rest).map (above ++ ·) := by
  induction above generalizing inAgent with
  | nil => simp [opened]
  | cons line above ih =>
    obtain ⟨hline, habove⟩ := not_or.1 (mt named_cons.2 h)
    have hih := ih habove
    rw [← opened_append, List.singleton_append] at hih
    cases hbegins : beginsSection line with
    | true =>
      have hopen : opened inAgent [line] = decide (sectionName line = agentSection) := by simp [opened, hbegins]
      simp only [List.cons_append, replaceFirst, hbegins, if_true]
      rw [← hopen, hih, Option.map_map]
      rfl
    | false =>
      have hopen : opened inAgent [line] = inAgent := by simp [opened, hbegins]
      have hnone : (if inAgent then nameEntryOn? line else none) = none := by
        cases inAgent with
        | false => rfl
        | true => simpa using hline
      rw [hopen] at hih
      simp only [List.cons_append, replaceFirst, hbegins, Bool.false_eq_true, if_false, hnone, hih, Option.map_map]
      rfl

/-- The editor replaces the value in the first line with a name. -/
theorem replaceFirst_line {indent after : List Char} (h : nameEntryOn? line = some (indent, after)) :
    replaceFirst value true (line :: below) = some (replaceValue value indent after :: below) := by
  have hbegins : beginsSection line = false := by
    cases hbegins : beginsSection line with
    | false => rfl
    | true =>
      rw [nameEntryOn?_of_beginsSection hbegins] at h
      cases h
  simp [replaceFirst, hbegins, h]

theorem replaceFirst_none (h : ¬Named false lines) : replaceFirst value false lines = none := by
  have hall : replaceFirst value false (lines ++ []) = none := replaceFirst_append h
  rwa [List.append_nil] at hall

variable (name : String)

/-- Where a line of a section of the agent has a name, the first one gets another value. -/
theorem editLines_entry (hopen : opened false above = true) (habove : ¬Named false above) {indent after : List Char}
    (hline : nameEntryOn? line = some (indent, after)) :
    editLines name (above ++ line :: below) = above ++ replaceValue (Json.quoteAscii name) indent after :: below := by
  simp only [editLines, replaceFirst_append habove, hopen, replaceFirst_line hline, Option.map_some]

theorem editLines_named (hopen : opened false above = true) (habove : ¬Named false above)
    {indent blanks token behind : List Char} (hline : NameLine line indent blanks token behind) :
    editLines name (above ++ line :: below) =
      above ++ (indent ++ "name: ".toList ++ Json.quoteAscii name ++ behind) :: below := by
  rw [editLines_entry name hopen habove hline.entry, hline.replaced]

/-- Where no line has a name, a new one is put below the last heading of the agent. -/
theorem editLines_headed (h : ¬Named false (above ++ line :: below)) (hline : IsHeading line)
    (hbelow : ∀ x ∈ below, ¬IsHeading x) :
    editLines name (above ++ line :: below) =
      above ++ line :: ("  name: ".toList ++ Json.quoteAscii name) :: below := by
  have hheaders : ∀ x ∈ below, isHeader x = false := fun x hx => by
    rw [← Bool.not_eq_true, isHeader_iff]
    exact hbelow x hx
  simp only [editLines, replaceFirst_none h, insertBelow_header (isHeader_iff.2 hline) hheaders]

/-- Where there is no section of the agent, one is put at the end. -/
theorem editLines_bare (h : ∀ x ∈ lines, ¬IsHeading x) :
    editLines name lines = lines ++ [[], agentSection, "  name: ".toList ++ Json.quoteAscii name] := by
  have hheaders : ∀ x ∈ lines, isHeader x = false := fun x hx => by
    rw [← Bool.not_eq_true, isHeader_iff]
    exact h x hx
  simp only [editLines, replaceFirst_none (not_named h), insertBelow_none hheaders]

end Editor

/-- Lines have a name in a section of the agent, or else a last heading of the agent, or no heading of it at all. -/
theorem lines_cases (lines : List (List Char)) :
    Named false lines ∨
      (¬Named false lines ∧ ∃ above heading below, lines = above ++ heading :: below ∧ IsHeading heading ∧
        ∀ line ∈ below, ¬IsHeading line) ∨
      ∀ line ∈ lines, ¬IsHeading line := by
  by_cases hnamed : Named false lines
  · exact .inl hnamed
  refine .inr ?_
  suffices h : (∃ above heading below, lines = above ++ heading :: below ∧ IsHeading heading ∧
      ∀ line ∈ below, ¬IsHeading line) ∨ ∀ line ∈ lines, ¬IsHeading line from h.imp_left fun h => ⟨hnamed, h⟩
  clear hnamed
  induction lines with
  | nil => exact .inr fun line hline => absurd hline List.not_mem_nil
  | cons line lines ih =>
    rcases ih with ⟨above, heading, below, rfl, hheading, hbelow⟩ | hnone
    · exact .inl ⟨line :: above, heading, below, rfl, hheading, hbelow⟩
    · by_cases hline : IsHeading line
      · exact .inl ⟨[], line, lines, rfl, hline, hnone⟩
      · exact .inr fun x hx => (List.mem_cons.1 hx).elim (fun heq => heq ▸ hline) (hnone x)

/-! ## The place of a name -/

/-- The place of a name: what stands around it however the agent is named, among lines that have no name before it in a
section of the agent. -/
structure Place (lines above : List (List Char)) (indent behind : List Char) (below : List (List Char)) : Prop where
  inside : opened false above = true
  first : ¬Named false above
  indented : indent ≠ []
  indentation : ∀ c ∈ indent, isBlank c = true
  edited : ∀ name, editLines name lines =
    above ++ (indent ++ "name: ".toList ++ Json.quoteAscii name ++ behind) :: below
  kept : (∀ line ∈ lines, OneLine line) → ∀ line ∈ above ++ (indent ++ behind) :: below, OneLine line

theorem place_named {lines : List (List Char)} (h : Named false lines) :
    ∃ above indent behind below, Place lines above indent behind below := by
  obtain ⟨above, line, below, indent, blanks, token, behind, rfl, hopen, habove, hline⟩ := h.first_line
  refine ⟨above, indent, behind, below, hopen, habove, hline.indented, hline.indentation, fun name => ?_, ?_⟩
  · exact editLines_named name hopen habove hline
  · simp only [List.forall_mem_append, List.forall_mem_cons, hline.text, oneLine_append]
    exact fun ⟨habove, hline, hbelow⟩ => ⟨habove, ⟨hline.1, hline.2.2.2.2⟩, hbelow⟩

theorem place_headed {above below : List (List Char)} {heading : List Char}
    (h : ¬Named false (above ++ heading :: below)) (hheading : IsHeading heading)
    (hbelow : ∀ line ∈ below, ¬IsHeading line) :
    Place (above ++ heading :: below) (above ++ [heading]) "  ".toList [] below where
  inside := by rw [opened_append, opened_header (isHeader_iff.2 hheading)]
  first := by
    rw [List.append_cons, named_append] at h
    exact fun hnamed => h (.inl hnamed)
  indented := by decide
  indentation := List.all_eq_true.1 (by decide)
  edited name := by
    rw [editLines_headed name h hheading hbelow]
    simp
  kept := by
    simp only [List.forall_mem_append, List.forall_mem_cons]
    exact fun ⟨habove, hheading, hbelow⟩ => ⟨⟨habove, hheading, by simp⟩, by decide, hbelow⟩

theorem place_bare {lines : List (List Char)} (h : ∀ line ∈ lines, ¬IsHeading line) :
    Place lines (lines ++ [[], agentSection]) "  ".toList [] [] where
  inside := by
    rw [opened_append, not_opened h]
    rfl
  first := by
    rw [named_append, not_opened h]
    rintro (hnamed | hnamed)
    · exact not_named h hnamed
    · obtain ⟨hinside, -⟩ | ⟨hinside, -⟩ | hnil := (named_cons.1 hnamed).imp_right named_cons.1
      · cases hinside
      · cases hinside
      · exact not_named_nil _ hnil
  indented := by decide
  indentation := List.all_eq_true.1 (by decide)
  edited name := by
    rw [editLines_bare name h]
    simp
  kept := by
    simp only [List.forall_mem_append, List.forall_mem_cons]
    exact fun hlines => ⟨⟨hlines, by decide, by decide, by simp⟩, by decide, by simp⟩

/-- Every file has a place for the name of the agent. -/
theorem exists_place (lines : List (List Char)) :
    ∃ above indent behind below, Place lines above indent behind below := by
  rcases lines_cases lines with hnamed | ⟨hnamed, above, heading, below, rfl, hheading, hbelow⟩ | hbare
  · exact place_named hnamed
  · exact ⟨_, _, _, _, place_headed hnamed hheading hbelow⟩
  · exact ⟨_, _, _, _, place_bare hbare⟩

/-- An edit leaves lines. -/
theorem oneLine_editLines (name : String) {lines : List (List Char)} (h : ∀ line ∈ lines, OneLine line) :
    ∀ line ∈ editLines name lines, OneLine line := by
  obtain ⟨above, indent, behind, below, hplace⟩ := exists_place lines
  have hkept := hplace.kept h
  simp only [List.forall_mem_append, List.forall_mem_cons, oneLine_append] at hkept
  obtain ⟨habove, ⟨hindent, hbehind⟩, hbelow⟩ := hkept
  simp only [hplace.edited, List.forall_mem_append, List.forall_mem_cons, oneLine_append]
  exact ⟨habove, ⟨⟨⟨hindent, by decide⟩, oneLine_quoteAscii name⟩, hbehind⟩, hbelow⟩

end ChatRelay.AgentLine
