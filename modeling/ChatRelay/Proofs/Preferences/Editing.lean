import ChatRelay.Proofs.Preferences.Naming

/-!
# Sheets that the editor was at

- `replaceFirst_section`, `replaceFirst_sheet`: the editor goes over sections without a name for the agent;
- `Names`: what is known of a sheet that names another agent, with one place changed (`exists_sheet`);
- `exists_replaced`, `exists_inserted`, `exists_appended`: the three places of a name, in the section of the agent,
  below its heading, and at the end;
- `edit_sheet`: the text of an editable sheet with another name is that of a sheet, with that name behind its key and
  nothing else changed.
-/

namespace ChatRelay.AgentLine

open Text (isBlank)
open Yaml (Remark Word Writing Sheet Section)

/-! ## Sections that the editor goes over -/

section Sections

variable {value entry : List Char} {inAgent : Bool} {rest : List (List Char)} {s : Section} {ss : List Section}

theorem name_eq_iff {e : Yaml.Entry} {w : Word} : e.name = String.ofList w.chars ↔ e.key.chars = w.chars :=
  String.ofList_inj

/-- The lines of a section are that of its heading and others. -/
theorem lines_section (s : Section) :
    s.lines = headline s.heading.key s.heading.tail ::
      (s.heading.below.map Remark.text ++ s.entries.flatMap (Yaml.Entry.lines s.column)) := by
  simp [Section.lines, Yaml.Entry.lines, s.bare, Yaml.Entry.shown, headline]

/-- The lines of a section below its heading begin no other. -/
theorem inside_section (s : Section) :
    ∀ line ∈ s.heading.below.map Remark.text ++ s.entries.flatMap (Yaml.Entry.lines s.column),
      beginsSection line = false := by
  intro line hline
  rcases List.mem_append.mp hline with hline | hline
  · obtain ⟨r, -, rfl⟩ := List.mem_map.mp hline
    exact (passed_remark r).inside
  · obtain ⟨e, -, hline⟩ := List.mem_flatMap.mp hline
    exact inside_entry s.indent e line hline

/-- A section that is not that of the agent, or has no name. -/
def Nameless (s : Section) : Prop :=
  s.heading.key.chars = agentWord.chars → ∀ e ∈ s.entries, e.key.chars ≠ nameWord.chars

theorem replaceFirst_section (h : Nameless s) :
    replaceFirst value inAgent (s.lines ++ rest) =
      (replaceFirst value (s.heading.key.chars = agentWord.chars) rest).map (s.lines ++ ·) := by
  rw [lines_section, List.cons_append, replaceFirst_headline, replaceFirst_passed (inside_section s), Option.map_map]
  · rfl
  · intro ha line hline
    rcases List.mem_append.mp hline with hline | hline
    · obtain ⟨r, -, rfl⟩ := List.mem_map.mp hline
      exact (passed_remark r).nameless
    · obtain ⟨e, he, hline⟩ := List.mem_flatMap.mp hline
      exact (passed_entry (h (of_decide_eq_true ha) e he) line hline).nameless

variable (value) in
/-- The editor goes over sections without a name for the agent. -/
theorem replaceFirst_sections (h : ∀ s ∈ ss, Nameless s) (inAgent : Bool) :
    ∃ inAgent', ∀ rest, replaceFirst value inAgent (ss.flatMap Section.lines ++ rest) =
      (replaceFirst value inAgent' rest).map (ss.flatMap Section.lines ++ ·) := by
  induction ss generalizing inAgent with
  | nil => exact ⟨inAgent, fun rest => by simp⟩
  | cons s ss ih =>
    obtain ⟨inAgent', hss⟩ := ih (fun x hx => h x (List.mem_cons_of_mem _ hx)) (s.heading.key.chars = agentWord.chars)
    refine ⟨inAgent', fun rest => ?_⟩
    rw [List.flatMap_cons, List.append_assoc, replaceFirst_section (h s List.mem_cons_self), hss, Option.map_map]
    simp [Function.comp_def]

/-- The editor goes over what stands above the first section. -/
theorem replaceFirst_above (above : List Remark) :
    replaceFirst value false (above.map Remark.text ++ rest) =
      (replaceFirst value false rest).map (above.map Remark.text ++ ·) := by
  refine replaceFirst_passed (fun line hline => ?_) fun h => by cases h
  obtain ⟨r, -, rfl⟩ := List.mem_map.mp hline
  exact (passed_remark r).inside

/-- Only the section of the agent has a heading for the agent. -/
theorem isHeader_sections (h : ∀ s ∈ ss, s.heading.key.chars ≠ agentWord.chars) :
    ∀ line ∈ ss.flatMap Section.lines, isHeader line = false := by
  intro line hline
  obtain ⟨s, hs, hline⟩ := List.mem_flatMap.mp hline
  rw [lines_section] at hline
  rcases List.mem_cons.mp hline with rfl | hline
  · rw [isHeader_headline]
    exact decide_eq_false (h s hs)
  · exact isHeader_inside (inside_section s line hline)

theorem isHeader_above (above : List Remark) : ∀ line ∈ above.map Remark.text, isHeader line = false := by
  intro line hline
  obtain ⟨r, -, rfl⟩ := List.mem_map.mp hline
  exact isHeader_inside (passed_remark r).inside

/-- A sheet without a name for the agent has nothing to replace. -/
theorem replaceFirst_sheet {f : Sheet} (h : ∀ s ∈ f.sections, Nameless s) :
    replaceFirst value false f.lines = none := by
  obtain ⟨inAgent, hss⟩ := replaceFirst_sections value h false
  have hend := hss []
  rw [List.append_nil] at hend
  rw [Sheet.lines, replaceFirst_above, hend]
  rfl

end Sections

/-! ## A name in place of another -/

section Editing

variable {f : Sheet} {name : String} (hbasic : ∀ c ∈ name.toList, c.toNat < 65536)

/-- What is known of a sheet that names another agent. -/
def Names (f g : Sheet) (v : Writing) : Prop :=
  ∀ a b, Sheet.value? g a b = if a = "agent" ∧ b = "name" then some (some (0, v)) else Sheet.value? f a b

/-- The lines of an entry with another value. -/
theorem replaceFirst_named {column : Nat} {e e' : Yaml.Entry} {rest : List (List Char)}
    (hname : e.key.chars = nameWord.chars) (hkey : e'.key = e.key) (hvalue : e'.value = some (0, writing name hbasic))
    (htail : afterValue ((Yaml.Entry.shown e.value ++ e.tail.text).dropWhile isBlank) = e'.tail.text)
    (hbelow : e'.below = e.below) :
    replaceFirst (Json.quoteAscii name) true (e.lines (column + 1) ++ rest) = some (e'.lines (column + 1) ++ rest) := by
  have hentry := nameEntryOn?_indented column e.key (Yaml.Entry.shown e.value ++ e.tail.text)
  rw [if_pos hname] at hentry
  have hline : beginsSection (List.replicate (column + 1) ' ' ++
      (e.key.chars ++ ':' :: (Yaml.Entry.shown e.value ++ e.tail.text))) = false := rfl
  have hlines : e.lines (column + 1) =
      (List.replicate (column + 1) ' ' ++ (e.key.chars ++ ':' :: (Yaml.Entry.shown e.value ++ e.tail.text))) ::
        e.below.map Remark.text := rfl
  have hlines' : e'.lines (column + 1) =
      replaceValue (Json.quoteAscii name) (List.replicate (column + 1) ' ')
        (Yaml.Entry.shown e.value ++ e.tail.text) :: e.below.map Remark.text := by
    have hprint : "name: ".toList = nameWord.chars ++ [':', ' '] := rfl
    rw [replaceValue, htail, hprint, Yaml.Entry.lines, hkey, hvalue, hbelow, hname]
    simp [Yaml.Entry.shown, text_writing]
  rw [hlines, hlines']
  generalize List.replicate (column + 1) ' ' ++ (e.key.chars ++ ':' :: (Yaml.Entry.shown e.value ++ e.tail.text)) = line
    at hentry hline
  simp only [List.cons_append, replaceFirst, hline, Bool.false_eq_true, if_false, if_true, hentry]

/-- A sheet with another section of the agent. -/
theorem exists_sheet {pre post : List Section} {s s' : Section} {v : Writing}
    (hsections : f.sections = pre ++ s :: post) (hpre : ∀ x ∈ pre, x.heading.name ≠ "agent")
    (hagent : s.heading.name = "agent") (hname : s'.name = s.name)
    (hvalues : ∀ b, Yaml.Entry.value? b s'.entries =
      if b = "name" then some (some (0, v)) else Yaml.Entry.value? b s.entries) :
    ∃ g : Sheet, Names f g v ∧ g.lines =
      f.above.map Remark.text ++ (pre.flatMap Section.lines ++ (s'.lines ++ post.flatMap Section.lines)) := by
  have hnames : (pre ++ s' :: post).map Section.name = f.sections.map Section.name := by
    rw [hsections]
    simp [hname]
  refine ⟨⟨f.above, pre ++ s' :: post, hnames ▸ f.distinct⟩, fun a b => ?_, by simp [Sheet.lines]⟩
  have hmiddle := Section.value?_middle a b post (congrArg String.ofList hname) (by rwa [hagent])
  have hsection : Section.value? "agent" b (pre ++ s :: post) = Yaml.Entry.value? b s.entries := by
    rw [Section.value?_middle _ _ _ rfl (by rwa [hagent]), if_pos hagent.symm]
  rw [hagent, hvalues, ← hsection, ← hsections] at hmiddle
  rw [Sheet.value?, hmiddle, Sheet.value?]
  rcases Decidable.em (a = "agent") with ha | ha
  · subst ha
    simp
  · simp [ha]

/-- A section of the agent with another name behind the key. -/
theorem exists_renamed {s : Section} {e : Yaml.Entry} (hagent : s.heading.name = "agent")
    (he : Yaml.Entry.find? "name" s.entries = some e) (hr : e.value.all (fun v => isReplaceable v.2) = true) :
    ∃ s' : Section, s'.name = s.name ∧
      (∀ inAgent rest, replaceFirst (Json.quoteAscii name) inAgent (s.lines ++ rest) = some (s'.lines ++ rest)) ∧
      ∀ b, Yaml.Entry.value? b s'.entries =
        if b = "name" then some (some (0, writing name hbasic)) else Yaml.Entry.value? b s.entries := by
  obtain ⟨hname, pre, post, hentries, hpre⟩ := List.find?_eq_some_iff_append.mp he
  simp only [beq_iff_eq, Bool.not_eq_true', beq_eq_false_iff_ne] at hname hpre
  obtain ⟨r, htail⟩ := exists_tail hr
  let e' : Yaml.Entry := ⟨e.key, some (0, writing name hbasic), r, e.below, Bool.or_true _⟩
  have hkeys : (pre ++ e' :: post).map (fun e => e.key.chars) = s.entries.map fun e => e.key.chars := by
    rw [hentries]
    simp [e']
  let s' : Section := ⟨s.heading, s.bare, s.indent, pre ++ e' :: post, hkeys ▸ s.distinct⟩
  refine ⟨s', rfl, fun inAgent rest => ?_, fun b => ?_⟩
  · have hpassed : ∀ line ∈ s.heading.below.map Remark.text ++ pre.flatMap (Yaml.Entry.lines s.column),
        Passed line := by
      intro line hline
      rcases List.mem_append.mp hline with hline | hline
      · obtain ⟨r, -, rfl⟩ := List.mem_map.mp hline
        exact passed_remark r
      · obtain ⟨x, hx, hline⟩ := List.mem_flatMap.mp hline
        exact passed_entry (fun hkey => hpre x hx (name_eq_iff.mpr hkey)) line hline
    have hlines : ∀ (e : Yaml.Entry) (t : Section), t.heading = s.heading → t.column = s.column →
        t.entries = pre ++ e :: post → t.lines ++ rest = headline s.heading.key s.heading.tail ::
          ((s.heading.below.map Remark.text ++ pre.flatMap (Yaml.Entry.lines s.column)) ++
            (e.lines s.column ++ (post.flatMap (Yaml.Entry.lines s.column) ++ rest))) := by
      intro e t h1 h2 h3
      rw [lines_section, h1, h2, h3]
      simp
    have hnamed : ∀ rest, replaceFirst (Json.quoteAscii name) true (e.lines s.column ++ rest) =
        some (e'.lines s.column ++ rest) := fun rest =>
      replaceFirst_named hbasic (name_eq_iff.mp hname) rfl rfl htail rfl
    rw [hlines e s rfl rfl hentries, hlines e' s' rfl rfl rfl, replaceFirst_headline,
      replaceFirst_passed (fun line h => (hpassed line h).inside) fun _ line h => (hpassed line h).nameless,
      decide_eq_true (name_eq_iff.mp hagent), hnamed]
    rfl
  · have hmiddle := Yaml.Entry.value?_middle b post (show e'.name = e.name from rfl) (by rwa [hname])
    rw [hname, ← hentries] at hmiddle
    exact hmiddle

/-- A name is replaced where it stands. -/
theorem exists_replaced {s : Section} {e : Yaml.Entry} (hs : Section.find? "agent" f.sections = some s)
    (he : Yaml.Entry.find? "name" s.entries = some e) (hr : e.value.all (fun v => isReplaceable v.2) = true) :
    ∃ g : Sheet, Names f g (writing name hbasic) ∧ editLines name f.lines = g.lines := by
  obtain ⟨hagent, pre, post, hsections, hpre⟩ := List.find?_eq_some_iff_append.mp hs
  simp only [beq_iff_eq, Bool.not_eq_true', beq_eq_false_iff_ne] at hagent hpre
  obtain ⟨s', hname, hsection, hvalues⟩ := exists_renamed hbasic hagent he hr
  obtain ⟨g, hg, hlines⟩ := exists_sheet hsections hpre hagent hname hvalues
  refine ⟨g, hg, ?_⟩
  have hpassed : ∀ x ∈ pre, Nameless x := fun x hx hkey => absurd (name_eq_iff.mpr hkey) (hpre x hx)
  obtain ⟨inAgent, hover⟩ := replaceFirst_sections (Json.quoteAscii name) hpassed false
  have hreplace : replaceFirst (Json.quoteAscii name) false f.lines = some g.lines := by
    rw [Sheet.lines, replaceFirst_above, hsections, List.flatMap_append, List.flatMap_cons, hover, hsection, hlines]
    rfl
  simp only [editLines, hreplace]

/-! ## A name below the heading -/

/-- The remark of an empty line. -/
def emptyLine : Remark := ⟨0, none, rfl⟩

/-- The entry that the editor writes. -/
def nameEntry (name : String) (hbasic : ∀ c ∈ name.toList, c.toNat < 65536) (below : List Remark) : Yaml.Entry :=
  ⟨nameWord, some (0, writing name hbasic), emptyLine, below, rfl⟩

theorem lines_nameEntry (below : List Remark) : (nameEntry name hbasic below).lines 2 =
    ("  name: ".toList ++ Json.quoteAscii name) :: below.map Remark.text := by
  have hprint : "  name: ".toList = List.replicate 2 ' ' ++ (nameWord.chars ++ [':', ' ']) := rfl
  rw [Yaml.Entry.lines, hprint]
  simp [nameEntry, emptyLine, Yaml.Entry.shown, text_writing, Remark.text]

theorem value?_nameEntry (below : List Remark) (es : List Yaml.Entry) (b : String) :
    Yaml.Entry.value? b (nameEntry name hbasic below :: es) =
      if b = "name" then some (some (0, writing name hbasic)) else Yaml.Entry.value? b es := by
  have hname : (nameEntry name hbasic below).name = "name" := rfl
  rw [Yaml.Entry.value?_cons, hname]
  simp only [@eq_comm _ b]
  rfl

theorem nameless_of_find? {s : Section} (h : Yaml.Entry.find? "name" s.entries = none) : Nameless s := by
  intro _ e he hkey
  have := List.find?_eq_none.mp h e he
  exact this (beq_iff_eq.mpr (name_eq_iff.mpr hkey))

/-- A section of the agent with a name above its other entries. -/
theorem exists_headed {s : Section} (he : Yaml.Entry.find? "name" s.entries = none)
    (hcolumn : s.entries = [] ∨ s.column = 2) :
    ∃ s' : Section, s'.name = s.name ∧
      s'.lines = headline s.heading.key s.heading.tail :: ("  name: ".toList ++ Json.quoteAscii name) ::
        (s.heading.below.map Remark.text ++ s.entries.flatMap (Yaml.Entry.lines s.column)) ∧
      ∀ b, Yaml.Entry.value? b s'.entries =
        if b = "name" then some (some (0, writing name hbasic)) else Yaml.Entry.value? b s.entries := by
  let e' := nameEntry name hbasic s.heading.below
  have hdistinct : ((e' :: s.entries).map fun e => e.key.chars).Nodup := by
    refine List.nodup_cons.mpr ⟨fun hmem => ?_, s.distinct⟩
    obtain ⟨e, hmem, hkey⟩ := List.mem_map.mp hmem
    exact List.find?_eq_none.mp he e hmem (beq_iff_eq.mpr (name_eq_iff.mpr hkey))
  let heading : Yaml.Entry := ⟨s.heading.key, s.heading.value, s.heading.tail, [], s.heading.apart⟩
  refine ⟨⟨heading, s.bare, 1, e' :: s.entries, hdistinct⟩, rfl, ?_, value?_nameEntry hbasic _ _⟩
  have hrest : s.entries.flatMap (Yaml.Entry.lines 2) = s.entries.flatMap (Yaml.Entry.lines s.column) := by
    rcases hcolumn with h | h <;> rw [h]
    rfl
  have hcolumn' : (Section.mk heading s.bare 1 (e' :: s.entries) hdistinct).column = 2 := rfl
  rw [lines_section, hcolumn', List.flatMap_cons, lines_nameEntry, hrest]
  rfl

/-- A name is put below the heading of the agent. -/
theorem exists_inserted {s : Section} (hs : Section.find? "agent" f.sections = some s)
    (he : Yaml.Entry.find? "name" s.entries = none) (hcolumn : s.entries = [] ∨ s.column = 2) :
    ∃ g : Sheet, Names f g (writing name hbasic) ∧ editLines name f.lines = g.lines := by
  obtain ⟨hagent, pre, post, hsections, hpre⟩ := List.find?_eq_some_iff_append.mp hs
  simp only [beq_iff_eq, Bool.not_eq_true', beq_eq_false_iff_ne] at hagent hpre
  obtain ⟨s', hname, hsection, hvalues⟩ := exists_headed hbasic he hcolumn
  obtain ⟨g, hg, hlines⟩ := exists_sheet hsections hpre hagent hname hvalues
  refine ⟨g, hg, ?_⟩
  -- No other section is that of the agent, so it is the last one with its heading.
  have hpost : ∀ x ∈ post, x.heading.key.chars ≠ agentWord.chars := fun x hx hkey => by
    have hd := f.distinct
    rw [hsections, List.map_append, List.map_cons] at hd
    have hmem := (List.nodup_cons.mp (List.nodup_append.mp hd).2.1).1
    exact hmem (List.mem_map.mpr ⟨x, hx, hkey.trans (name_eq_iff.mp hagent).symm⟩)
  have hnameless : ∀ x ∈ f.sections, Nameless x := fun x hx => by
    rw [hsections] at hx
    rcases List.mem_append.mp hx with hx | hx
    · exact fun hkey => absurd (name_eq_iff.mpr hkey) (hpre x hx)
    · rcases List.mem_cons.mp hx with rfl | hx
      · exact nameless_of_find? he
      · exact fun hkey => absurd hkey (hpost x hx)
  have hheader : isHeader (headline s.heading.key s.heading.tail) = true := by
    rw [isHeader_headline]
    exact decide_eq_true (name_eq_iff.mp hagent)
  have hbelow : ∀ line ∈ (s.heading.below.map Remark.text ++ s.entries.flatMap (Yaml.Entry.lines s.column)) ++
      post.flatMap Section.lines, isHeader line = false := fun line hline => by
    rcases List.mem_append.mp hline with hline | hline
    · exact isHeader_inside (inside_section s line hline)
    · exact isHeader_sections hpost line hline
  have hinsert : insertBelow ("  name: ".toList ++ Json.quoteAscii name) f.lines = some g.lines := by
    have hf : f.lines = (f.above.map Remark.text ++ pre.flatMap Section.lines) ++
        headline s.heading.key s.heading.tail :: ((s.heading.below.map Remark.text ++
          s.entries.flatMap (Yaml.Entry.lines s.column)) ++ post.flatMap Section.lines) := by
      rw [Sheet.lines, hsections, List.flatMap_append, List.flatMap_cons, lines_section s]
      simp
    rw [hf, insertBelow_header hheader hbelow, hlines, hsection]
    simp
  simp only [editLines, replaceFirst_sheet hnameless, hinsert]

/-! ## A name at the end -/

/-- Entries may end in an empty line. -/
theorem exists_closed_entries {es : List Yaml.Entry} (h : es ≠ []) :
    ∃ es' : List Yaml.Entry, (es'.map fun e => e.key.chars) = (es.map fun e => e.key.chars) ∧
      (∀ column, es'.flatMap (Yaml.Entry.lines column) = es.flatMap (Yaml.Entry.lines column) ++ [[]]) ∧
      ∀ b, Yaml.Entry.value? b es' = Yaml.Entry.value? b es := by
  induction es with
  | nil => exact absurd rfl h
  | cons e es ih =>
    rcases Decidable.em (es = []) with hes | hes
    · subst hes
      let e' : Yaml.Entry := ⟨e.key, e.value, e.tail, e.below ++ [emptyLine], e.apart⟩
      refine ⟨[e'], rfl, fun column => ?_, fun b => ?_⟩
      · simp [e', Yaml.Entry.lines, emptyLine, Remark.text]
      · rw [Yaml.Entry.value?_cons, Yaml.Entry.value?_cons]
        rfl
    · obtain ⟨es', hkeys, hlines, hvalues⟩ := ih hes
      refine ⟨e :: es', ?_, fun column => ?_, fun b => ?_⟩
      · rw [List.map_cons, hkeys, List.map_cons]
      · rw [List.flatMap_cons, hlines, List.flatMap_cons, List.append_assoc]
      · rw [Yaml.Entry.value?_cons, hvalues, Yaml.Entry.value?_cons]

/-- A section may end in an empty line. -/
theorem exists_closed_section (s : Section) :
    ∃ s' : Section, s'.name = s.name ∧ s'.lines = s.lines ++ [[]] ∧
      ∀ b, Yaml.Entry.value? b s'.entries = Yaml.Entry.value? b s.entries := by
  rcases Decidable.em (s.entries = []) with hes | hes
  · let heading : Yaml.Entry :=
      ⟨s.heading.key, s.heading.value, s.heading.tail, s.heading.below ++ [emptyLine], s.heading.apart⟩
    refine ⟨⟨heading, s.bare, s.indent, s.entries, s.distinct⟩, rfl, ?_, fun b => rfl⟩
    simp [Section.lines, Yaml.Entry.lines, heading, hes, emptyLine, Remark.text]
  · obtain ⟨es', hkeys, hlines, hvalues⟩ := exists_closed_entries hes
    refine ⟨⟨s.heading, s.bare, s.indent, es', hkeys ▸ s.distinct⟩, rfl, ?_, hvalues⟩
    simp only [Section.lines, Section.column, hlines, List.append_assoc]

/-- Sections may end in an empty line. -/
theorem exists_closed_sections {ss : List Section} (h : ss ≠ []) :
    ∃ ss' : List Section, ss'.map Section.name = ss.map Section.name ∧
      ss'.flatMap Section.lines = ss.flatMap Section.lines ++ [[]] ∧
      ∀ a b, Section.value? a b ss' = Section.value? a b ss := by
  induction ss with
  | nil => exact absurd rfl h
  | cons s ss ih =>
    rcases Decidable.em (ss = []) with hss | hss
    · subst hss
      obtain ⟨s', hname, hlines, hvalues⟩ := exists_closed_section s
      refine ⟨[s'], by simp [hname], by simp [hlines], fun a b => ?_⟩
      have hname : s'.heading.name = s.heading.name := congrArg String.ofList hname
      rw [Section.value?_cons, Section.value?_cons, hvalues, hname]
    · obtain ⟨ss', hnames, hlines, hvalues⟩ := ih hss
      refine ⟨s :: ss', ?_, ?_, fun a b => ?_⟩
      · rw [List.map_cons, hnames, List.map_cons]
      · rw [List.flatMap_cons, hlines, List.flatMap_cons, List.append_assoc]
      · rw [Section.value?_cons, hvalues, Section.value?_cons]

/-- A sheet may end in an empty line. -/
theorem exists_closed (f : Sheet) :
    ∃ f' : Sheet, f'.sections.map Section.name = f.sections.map Section.name ∧ f'.lines = f.lines ++ [[]] ∧
      ∀ a b, Sheet.value? f' a b = Sheet.value? f a b := by
  rcases Decidable.em (f.sections = []) with hss | hss
  · refine ⟨⟨f.above ++ [emptyLine], f.sections, f.distinct⟩, rfl, ?_, fun a b => rfl⟩
    simp [Sheet.lines, hss, emptyLine, Remark.text]
  · obtain ⟨ss', hnames, hlines, hvalues⟩ := exists_closed_sections hss
    refine ⟨⟨f.above, ss', hnames ▸ f.distinct⟩, hnames, ?_, hvalues⟩
    simp only [Sheet.lines, hlines, List.append_assoc]

theorem nodup_one (n : List Char) : [n].Nodup := List.nodup_cons.mpr ⟨List.not_mem_nil, List.nodup_nil⟩

/-- The section that the editor writes. -/
def nameSection (name : String) (hbasic : ∀ c ∈ name.toList, c.toNat < 65536) : Section :=
  ⟨⟨agentWord, none, emptyLine, [], rfl⟩, rfl, 1, [nameEntry name hbasic []], nodup_one _⟩

theorem lines_nameSection :
    (nameSection name hbasic).lines = [agentSection, "  name: ".toList ++ Json.quoteAscii name] := by
  have hcolumn : (nameSection name hbasic).column = 2 := rfl
  have hentries : (nameSection name hbasic).entries = [nameEntry name hbasic []] := rfl
  rw [lines_section, hcolumn, hentries, List.flatMap_cons, lines_nameEntry]
  rfl

/-- A sheet without a section of the agent, and one for the name at its end. -/
theorem exists_lengthened (hs : ∀ x ∈ f.sections, x.heading.name ≠ "agent") :
    ∃ g : Sheet, Names f g (writing name hbasic) ∧ g.lines = f.lines ++ (nameSection name hbasic).lines := by
  have hname : (nameSection name hbasic).heading.name = "agent" := rfl
  have hdistinct : ((f.sections ++ [nameSection name hbasic]).map Section.name).Nodup := by
    rw [List.map_append, List.nodup_append]
    refine ⟨f.distinct, nodup_one _, fun n hn n' hn' hne => ?_⟩
    obtain ⟨x, hx, rfl⟩ := List.mem_map.mp hn
    have hagent : n' = agentWord.chars := List.mem_singleton.mp hn'
    exact hs x hx (name_eq_iff.mpr (hne.trans hagent))
  refine ⟨⟨f.above, f.sections ++ [nameSection name hbasic], hdistinct⟩, fun a b => ?_, by simp [Sheet.lines]⟩
  have hend := Section.value?_end a b (s := nameSection name hbasic) (by rwa [hname])
  have hentry : Yaml.Entry.value? b (nameSection name hbasic).entries =
      if b = "name" then some (some (0, writing name hbasic)) else none := value?_nameEntry hbasic [] [] b
  have hnone : Section.value? "agent" b f.sections = none := by
    have hfind : Section.find? "agent" f.sections = none :=
      List.find?_eq_none.mpr fun x hx hx' => hs x hx (beq_iff_eq.mp hx')
    rw [Section.value?, hfind]
    rfl
  rw [hname, hentry] at hend
  rw [Sheet.value?, hend, Sheet.value?]
  rcases Decidable.em (a = "agent") with ha | ha
  · subst ha
    simp [hnone]
  · simp [ha]

/-- A name is put at the end, in a section of its own. -/
theorem exists_appended (hs : Section.find? "agent" f.sections = none) :
    ∃ g : Sheet, Names f g (writing name hbasic) ∧ editLines name f.lines = g.lines := by
  obtain ⟨f', hnames, hlines, hvalues⟩ := exists_closed f
  have hother : ∀ x ∈ f.sections, x.heading.name ≠ "agent" := fun x hx hname =>
    List.find?_eq_none.mp hs x hx (beq_iff_eq.mpr hname)
  have hkey : ∀ x ∈ f.sections, x.heading.key.chars ≠ agentWord.chars := fun x hx hkey =>
    hother x hx (name_eq_iff.mpr hkey)
  have hother' : ∀ x ∈ f'.sections, x.heading.name ≠ "agent" := fun x hx hname => by
    obtain ⟨y, hy, hxy⟩ := List.mem_map.mp (hnames ▸ List.mem_map_of_mem hx)
    exact hother y hy ((congrArg String.ofList hxy).trans hname)
  obtain ⟨g, hg, hglines⟩ := exists_lengthened hbasic hother'
  refine ⟨g, fun a b => by rw [hg, hvalues], ?_⟩
  have hheader : ∀ line ∈ f.lines, isHeader line = false := fun line hline => by
    rcases List.mem_append.mp hline with hline | hline
    · exact isHeader_above f.above line hline
    · exact isHeader_sections hkey line hline
  have hnameless : ∀ x ∈ f.sections, Nameless x := fun x hx h => absurd h (hkey x hx)
  simp only [editLines, replaceFirst_sheet hnameless, insertBelow_none hheader]
  rw [hglines, hlines, lines_nameSection]
  simp

/-! ## Every editable sheet -/

/-- Whether the editor can name another agent in a section: what stands behind the key can be replaced, or a line
with the key fits in front of the other entries. -/
def isEditableSection (s : Section) : Bool :=
  match Yaml.Entry.find? "name" s.entries with
  | some e => e.value.all fun v => isReplaceable v.2
  | none => s.entries.isEmpty || s.column = 2

/-- Whether the editor can name another agent in a sheet. -/
def isEditable (f : Sheet) : Bool := (Section.find? "agent" f.sections).all isEditableSection

/-- The text of an editable sheet with another name for the agent is that of a sheet, which has the name behind its key
and everything else as it was. -/
theorem edit_sheet (h : isEditable f = true) :
    ∃ g : Sheet, Names f g (writing name hbasic) ∧ edit name f.text = g.text := by
  have hread : Text.splitLines f.text.toList = f.lines := by
    have hends : ∀ line ∈ f.lines, OneLine line := fun line hline c hc =>
      isLineEnd_of_isInLine (f.isInLine_lines line hline c hc)
    rw [Sheet.text, String.toList_ofList, Sheet.chars, splitLines_joinLines hends]
  have hlines : ∃ g : Sheet, Names f g (writing name hbasic) ∧ editLines name f.lines = g.lines := by
    rw [isEditable] at h
    cases hs : Section.find? "agent" f.sections with
    | none => exact exists_appended hbasic hs
    | some s =>
      rw [hs, Option.all_some, isEditableSection] at h
      cases he : Yaml.Entry.find? "name" s.entries with
      | none =>
        rw [he] at h
        exact exists_inserted hbasic hs he (by simpa using h)
      | some e =>
        rw [he] at h
        exact exists_replaced hbasic hs he h
  obtain ⟨g, hg, hlines⟩ := hlines
  exact ⟨g, hg, by rw [edit, hread, hlines]; rfl⟩

end Editing

end ChatRelay.AgentLine
