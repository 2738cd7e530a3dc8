import ChatRelay.Proofs.Preferences.Saving

/-!
# One place of a file is edited

- `Renames`: the three ways to name the agent in lines, each at one place, told without the editor; no two of them
  apply to the same lines (`Renames.way_unique`);
- `outside`: the lines that are in no section of the agent, none of which is changed (`Renames.outside_prefix`);
- `Lists`: the lines of a text with line feeds only (`lists_splitLines`);
- `saveAgent_one_place`: after the agent was named in a file, the lines of the file are those of before with the agent
  named in one of the three ways.
-/

namespace ChatRelay

namespace AgentLine

/-! ## Ways to name the agent -/

/-- The ways to name the agent: with another value in a line, with another line in a section, and with another
section. -/
inductive Way
  | replaced
  | inserted
  | appended
deriving DecidableEq, Repr

/-- A line in a section of the agent has a name. -/
def HasName (lines : List (List Char)) : Prop :=
  ∃ above line below, lines = above ++ line :: below ∧ InAgent above ∧
    ∃ indent blanks token behind, NameLine line indent blanks token behind

/-- Lines with the agent named in them by a value, and the lines from which they came. -/
inductive Renames (value : List Char) : Way → List (List Char) → List (List Char) → Prop
  /-- The first name in a section of the agent has another value, and all around it is kept. -/
  | replaced {above below : List (List Char)} {line indent blanks token behind : List Char} :
      InAgent above → ¬HasName above → NameLine line indent blanks token behind →
      Renames value .replaced (above ++ line :: below)
        (above ++ (indent ++ "name: ".toList ++ value ++ behind) :: below)
  /-- Without a name there is one directly below the last heading of the agent. -/
  | inserted {above below : List (List Char)} {heading : List Char} :
      ¬HasName (above ++ heading :: below) → IsHeading heading → (∀ line ∈ below, ¬IsHeading line) →
      Renames value .inserted (above ++ heading :: below)
        (above ++ heading :: ("  name: ".toList ++ value) :: below)
  /-- Without a heading of the agent there is one at the end, with a name below it. -/
  | appended {lines : List (List Char)} : (∀ line ∈ lines, ¬IsHeading line) →
      Renames value .appended lines (lines ++ [[], agentSection, "  name: ".toList ++ value])

section

variable {value : List Char} {way way' : Way} {lines lines' lines'' : List (List Char)}

/-- The editor finds a name exactly where there is one. -/
theorem named_iff : Named false lines ↔ HasName lines := by
  constructor
  · intro h
    obtain ⟨above, line, below, indent, blanks, token, behind, rfl, hopen, -, hline⟩ := h.first_line
    exact ⟨above, line, below, rfl, opened_iff.1 hopen, indent, blanks, token, behind, hline⟩
  · rintro ⟨above, line, below, rfl, habove, indent, blanks, token, behind, hline⟩
    exact ⟨above, line, below, rfl, opened_iff.2 habove, by rw [hline.entry, Option.isSome_some]⟩

/-- Lines with a name have a heading above it. -/
theorem HasName.exists_heading (h : HasName lines) : ∃ heading ∈ lines, IsHeading heading := by
  obtain ⟨above, line, below, rfl, ⟨above', heading, between, rfl, hheading, -⟩, -⟩ := h
  exact ⟨heading, by simp, hheading⟩

/-- A value is replaced exactly where there is a name. -/
theorem Renames.replaced_iff (h : Renames value way lines lines') : way = .replaced ↔ HasName lines := by
  cases h with
  | @replaced above below line indent blanks token behind habove _ hline =>
    have hname : HasName (above ++ line :: below) := ⟨above, line, below, rfl, habove, _, _, _, _, hline⟩
    exact ⟨fun _ => hname, fun _ => rfl⟩
  | inserted hnone _ _ => exact ⟨fun hway => (by cases hway), fun hname => absurd hname hnone⟩
  | appended hnone =>
    refine ⟨fun hway => (by cases hway), fun hname => ?_⟩
    obtain ⟨heading, hmem, hheading⟩ := hname.exists_heading
    exact absurd hheading (hnone heading hmem)

/-- A section is appended exactly where there is no heading. -/
theorem Renames.appended_iff (h : Renames value way lines lines') :
    way = .appended ↔ ∀ line ∈ lines, ¬IsHeading line := by
  cases h with
  | replaced habove _ _ =>
    obtain ⟨above', heading, between, rfl, hheading, -⟩ := habove
    exact ⟨fun hway => (by cases hway), fun hnone => absurd hheading (hnone heading (by simp))⟩
  | @inserted _ _ heading _ hheading _ =>
    exact ⟨fun hway => (by cases hway), fun hnone => absurd hheading (hnone heading (by simp))⟩
  | appended hnone => exact ⟨fun _ => hnone, fun _ => rfl⟩

/-- There is only one way to name the agent in given lines. -/
theorem Renames.way_unique (h : Renames value way lines lines') (h' : Renames value way' lines lines'') :
    way = way' := by
  have hreplaced : way = .replaced ↔ way' = .replaced := h.replaced_iff.trans h'.replaced_iff.symm
  have happended : way = .appended ↔ way' = .appended := h.appended_iff.trans h'.appended_iff.symm
  cases way <;> cases way' <;> simp_all

variable (lines) in
/-- The editor names the agent in one of the ways. -/
theorem exists_renames (name : String) : ∃ way, Renames (Json.quoteAscii name) way lines (editLines name lines) := by
  rcases lines_cases lines with hnamed | ⟨hnamed, above, heading, below, rfl, hheading, hbelow⟩ | hbare
  · obtain ⟨above, line, below, indent, blanks, token, behind, rfl, hopen, habove, hline⟩ := hnamed.first_line
    rw [editLines_named name hopen habove hline]
    exact ⟨.replaced, .replaced (opened_iff.1 hopen) (mt named_iff.2 habove) hline⟩
  · rw [editLines_headed name hnamed hheading hbelow]
    exact ⟨.inserted, .inserted (mt named_iff.2 hnamed) hheading hbelow⟩
  · rw [editLines_bare name hbare]
    exact ⟨.appended, .appended hbare⟩

end

/-! ## Other sections -/

/-- The lines that are in no section of the agent, for lines that began inside or outside one. -/
def outside (inAgent : Bool) : List (List Char) → List (List Char)
  | [] => []
  | line :: rest => if opened inAgent [line] then outside true rest else line :: outside false rest

section

variable {value : List Char} {way : Way} {inAgent : Bool} {lines lines' rest : List (List Char)} {line : List Char}

theorem outside_append :
    outside inAgent (lines ++ rest) = outside inAgent lines ++ outside (opened inAgent lines) rest := by
  induction lines generalizing inAgent with
  | nil => rfl
  | cons line lines ih =>
    have hopen : opened inAgent (line :: lines) = opened (opened inAgent [line]) lines :=
      opened_append inAgent [line] lines
    rw [List.cons_append, outside, outside, hopen]
    cases opened inAgent [line] <;> simp [ih]

/-- A line inside a section of the agent is not seen from outside. -/
theorem outside_inside (h : beginsSection line = false) : outside true (line :: rest) = outside true rest := by
  simp [outside, opened, h]

/-- No line of another section is changed. -/
theorem Renames.outside_prefix (h : Renames value way lines lines') : outside false lines <+: outside false lines' := by
  cases h with
  | @replaced above below line indent blanks token behind habove _ hline =>
    have hold : beginsSection line = false := by
      by_contra hbegins
      have hnone := nameEntryOn?_of_beginsSection (Bool.eq_true_of_not_eq_false hbegins)
      rw [hline.entry] at hnone
      cases hnone
    have hnew : beginsSection (indent ++ "name: ".toList ++ value ++ behind) = false := by
      obtain ⟨c, cs, rfl⟩ := List.exists_cons_of_ne_nil hline.indented
      simp [beginsSection, hline.indentation c List.mem_cons_self]
    rw [outside_append, outside_append, opened_iff.2 habove, outside_inside hold, outside_inside hnew]
  | @inserted above below heading _ hheading _ =>
    have hentry : beginsSection ("  name: ".toList ++ value) = false := rfl
    have hinside : ∀ rest, outside (opened false above) (heading :: rest) = outside true rest := by
      intro rest
      rw [outside, opened_header (isHeader_iff.2 hheading), if_pos rfl]
    rw [outside_append, outside_append, hinside, hinside, outside_inside hentry]
  | appended _ =>
    rw [outside_append]
    exact List.prefix_append _ _

end

/-! ## Lines of a text -/

/-- Lines of a text in which every line but the last ends with a line feed. -/
def Lists (lines : List (List Char)) (cs : List Char) : Prop :=
  (∀ line ∈ lines, '\n' ∉ line) ∧
    (cs = joinLines lines ∨ lines.getLast? ≠ some [] ∧ cs ++ ['\n'] = joinLines lines)

theorem not_mem_of_oneLine {line : List Char} (h : OneLine line) : '\n' ∉ line := fun hmem =>
  absurd (h '\n' hmem) (by decide)

theorem lists_joinLines {lines : List (List Char)} (h : ∀ line ∈ lines, OneLine line) : Lists lines (joinLines lines) :=
  ⟨fun line hline => not_mem_of_oneLine (h line hline), .inl rfl⟩

/-- A text is its lines, where they end with nothing but line feeds. -/
theorem joinLines_splitLinesFrom (acc : List Char) {cs : List Char} (h : ∀ c ∈ cs, Text.isLineEnd c = true → c = '\n') :
    acc.reverse ++ cs = joinLines (Text.splitLinesFrom acc cs) ∨
      (Text.splitLinesFrom acc cs).getLast? ≠ some [] ∧
        acc.reverse ++ cs ++ ['\n'] = joinLines (Text.splitLinesFrom acc cs) := by
  fun_induction Text.splitLinesFrom acc cs with
  | case1 acc hempty => exact .inl (by simp [List.isEmpty_iff.1 hempty, joinLines])
  | case2 acc hempty => exact .inr (by simpa [joinLines] using hempty)
  | case3 acc cs ih => exact absurd (h '\r' (by simp) (by decide)) (by decide)
  | case4 acc c cs hcr hend ih =>
    obtain rfl := h c List.mem_cons_self hend
    have hjoin : ∀ lines, joinLines (acc.reverse :: lines) = acc.reverse ++ '\n' :: joinLines lines := by
      simp [joinLines]
    rw [hjoin]
    rcases ih fun x hx => h x (List.mem_cons_of_mem _ hx) with hcs | ⟨hlast, hcs⟩
    · exact .inl (by rw [← hcs]; rfl)
    · refine .inr ⟨?_, by rw [← hcs]; simp⟩
      cases hrest : Text.splitLinesFrom [] cs with
      | nil =>
        rw [hrest] at hcs
        simp [joinLines] at hcs
      | cons line lines =>
        rw [hrest] at hlast
        rwa [List.getLast?_cons_cons]
  | case5 acc c cs hcr hend ih =>
    have hih := ih fun x hx => h x (List.mem_cons_of_mem _ hx)
    rwa [List.reverse_cons, List.append_assoc, List.singleton_append] at hih

theorem lists_splitLines {cs : List Char} (h : ∀ c ∈ cs, Text.isLineEnd c = true → c = '\n') :
    Lists (Text.splitLines cs) cs :=
  ⟨fun line hline => not_mem_of_oneLine (oneLine_splitLines cs line hline), joinLines_splitLinesFrom [] h⟩

end AgentLine

namespace Preferences

open AgentLine (edit Lists Renames outside)

/-! ## The file -/

/-- After the agent was named in a file, the lines of the file are those of before with the agent named in one of the
three ways, and no line of another section is changed. -/
theorem saveAgent_one_place {d d' d₁ : Disk} {path : Path} {text name : String} {notices : List Notice}
    (hsource : Source d path text d₁) (hends : ∀ c ∈ text.toList, Text.isLineEnd c = true → c = '\n')
    (hsave : saveAgent d path name = (.ok true, d', notices)) :
    ∃ lines lines' text', Lists lines text.toList ∧ d'.readText path = .ok text' ∧ Lists lines' text'.toList ∧
      (∃! way, Renames (Json.quoteAscii name) way lines lines') ∧ outside false lines <+: outside false lines' := by
  obtain ⟨-, hwrite⟩ := (saveAgent_of_source hsource).1 hsave
  have hlines := AgentLine.oneLine_editLines name (AgentLine.oneLine_splitLines text.toList)
  have hlists : Lists (AgentLine.editLines name (Text.splitLines text.toList)) (edit name text).toList := by
    rw [edit, String.toList_ofList]
    exact AgentLine.lists_joinLines hlines
  obtain ⟨way, hway⟩ := AgentLine.exists_renames (Text.splitLines text.toList) name
  exact ⟨_, _, _, AgentLine.lists_splitLines hends, readText_of_edit hwrite, hlists,
    ⟨way, hway, fun _ hway' => hway'.way_unique hway⟩, hway.outside_prefix⟩

/-- A file with a lookalike, a remark, a name between single quotes and a second section of the agent. -/
def placedText : String := "server:\n  name: s\nagent: # who\n# a remark\n\n  name:   'old'  # kept\nagent:\n  name: t"

/-- The file with another name. -/
def placedAfter : String :=
  "server:\n  name: s\nagent: # who\n# a remark\n\n  name: \"a\\\"b\"  # kept\nagent:\n  name: t\n"

/-- Only the value of the first name in a section of the agent is another one. -/
theorem onePlace_placed :
    ∃ d', saveAgent (diskOf placedText) ownPath "a\"b" = (.ok true, d', []) ∧
      d'.readText ownPath = .ok placedAfter ∧
      ∃ lines lines' text', Lists lines placedText.toList ∧ d'.readText ownPath = .ok text' ∧
        Lists lines' text'.toList ∧ (∃! way, Renames (Json.quoteAscii "a\"b") way lines lines') ∧
        outside false lines <+: outside false lines' := by
  have hreturn : '\r' ∉ placedText.toList := by decide
  have hends : ∀ c ∈ placedText.toList, Text.isLineEnd c = true → c = '\n' := by
    have hall : (placedText.toList.all fun c => !Text.isLineEnd c || c = '\n') = true := by decide
    intro c hc hend
    simpa [hend] using List.all_eq_true.1 hall c hc
  have hsave := saveAgent_diskOf hreturn "a\"b"
  have hedit : edit "a\"b" placedText = placedAfter := by decide +kernel
  refine ⟨_, hsave, ?_, saveAgent_one_place (.file (readText_diskOf hreturn)) hends hsave⟩
  rw [hedit]
  exact readText_diskOf (by decide)

end Preferences

end ChatRelay
