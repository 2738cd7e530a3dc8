import ChatRelay.Proofs.Preferences.Editing
import ChatRelay.Proofs.Preferences.Reading
import ChatRelay.Proofs.Preferences.Saving

/-!
# Naming another agent

- `ofText_edit`: the text of an editable sheet with another name is read as the preferences with that name;
- `saveAgent_renames`: where the file holds an editable sheet, naming another agent in it changes the name of the agent
  in the preferences and nothing else;
- `escapedQuote_lost`: a name with an escaped quote is not editable, and naming another agent loses the preferences.
-/

namespace ChatRelay.Preferences

open Yaml (Sheet)
open AgentLine (isEditable edit edit_sheet)

/-! ## The file -/

section Files

variable {d : Disk} {path : Path} {text : String}

/-- A file is read without falling back if its text is. -/
theorem load_eq_iff [Host] {p : Preferences} (htext : d.readText path = .ok text) :
    load d path = (.ok p, d, []) ↔ ofText path text = .ok (p, []) := by
  simp only [load, exists_of_readText htext, htext, Except.bind]
  cases hread : ofText path text with
  | ok r =>
    obtain ⟨q, notices⟩ := r
    simp
  | error f =>
    simp only
    split <;> simp

/-- Whether a text counts for nothing. -/
def fallsBack [Host] (path : Path) (text : String) : Bool :=
  match ofText path text with
  | .ok _ => false
  | .error f => isForgiven f

/-- A file whose text counts for nothing is loaded as what holds without it. -/
theorem load_of_fallsBack [Host] (htext : d.readText path = .ok text) (h : fallsBack path text = true) :
    load d path = (.ok default, d, [.preferencesUnreadable path.toString]) := by
  rw [fallsBack] at h
  simp only [load, exists_of_readText htext, htext, Except.bind]
  cases hread : ofText path text with
  | ok r => simp [hread] at h
  | error f =>
    simp only [hread] at h
    simp only [h, if_true]

end Files

/-! ## The preferences -/

theorem not_mem_text (f : Sheet) : '\r' ∉ f.text.toList := by
  intro h
  simp only [Sheet.text, String.toList_ofList, Sheet.chars, AgentLine.joinLines, List.mem_flatMap, List.mem_append,
    List.mem_singleton] at h
  obtain ⟨line, hline, h | h⟩ := h
  · exact absurd (f.isInLine_lines line hline '\r' h) (by decide)
  · exact absurd h (by decide)

/-- The text of an editable sheet with another name for the agent sets what the sheet sets, with that name. -/
theorem ofText_edit [Host] {f : Sheet} {path : Path} {p : Preferences} {name : String} (hf : isEditable f = true)
    (hread : ofText path f.text = .ok (p, [])) (hname : name ≠ "") (hbasic : ∀ c ∈ name.toList, c.toNat < 65536) :
    '\r' ∉ (edit name f.text).toList ∧ ofText path (edit name f.text) = .ok (p.withAgent name, []) := by
  obtain ⟨hlegible, happly, -⟩ := ofText_sheet.mp hread
  obtain ⟨g, hg, hedit⟩ := edit_sheet hbasic hf
  rw [hedit]
  refine ⟨not_mem_text g, ofText_sheet.mpr ⟨?_, apply_renamed happly hname ?_ fun a b hab => ?_, rfl⟩⟩
  · rw [Sheet.legible_iff] at hlegible ⊢
    intro a b value hvalue
    rw [hg] at hvalue
    split at hvalue
    · cases hvalue
      exact ⟨_, AgentLine.valueAt_writing name hbasic 0 0⟩
    · exact hlegible a b value hvalue
  · rw [Sheet.setting?, hg, if_pos ⟨rfl, rfl⟩, Option.bind_some, AgentLine.valueAt_writing]
    rfl
  · rw [Sheet.setting?, hg, if_neg hab, Sheet.setting?]

/-- Where the file holds an editable sheet, naming another agent in it changes the name of the agent and nothing
else. -/
theorem saveAgent_renames [Host] {d d' : Disk} {path : Path} {f : Sheet} {name : String} {p : Preferences}
    {notices : List Notice} (hfile : d.readText path = .ok f.text) (hf : isEditable f = true)
    (hload : load d path = (.ok p, d, [])) (hname : name ≠ "") (hbasic : ∀ c ∈ name.toList, c.toNat < 65536)
    (hsave : saveAgent d path name = (.ok true, d', notices)) : load d' path = (.ok (p.withAgent name), d', []) := by
  obtain ⟨hlines, hread⟩ := ofText_edit hf ((load_eq_iff hfile).mp hload) hname hbasic
  exact (load_eq_iff (readText_of_writeText (writeText_of_saveAgent hfile hsave) hlines)).mpr hread

/-! ## Two files -/

/-- A file with a port, and a comment behind the name of the agent. -/
def ownText : String := "server:\n  port: 9000\nagent:\n  name: echo  # who answers\n"

/-- The file holds an editable sheet. -/
theorem exists_ownSheet : ∃ f : Sheet, f.text = ownText ∧ isEditable f = true := by
  let server : Yaml.Word := ⟨'s', "erver".toList, by decide, by decide, by decide, by decide⟩
  let port : Yaml.Word := ⟨'p', "ort".toList, by decide, by decide, by decide, by decide⟩
  let nothing : Yaml.Remark := ⟨0, none, rfl⟩
  let comment : Yaml.Remark := ⟨2, some " who answers".toList, by decide⟩
  let number : Yaml.Writing := .plain "9000".toList [] (by decide) (by decide) (by decide)
  let echo : Yaml.Writing := .plain "echo".toList [] (by decide) (by decide) (by decide)
  let sections : List Yaml.Section := [
    ⟨⟨server, none, nothing, [], rfl⟩, rfl, 1, [⟨port, some (0, number), nothing, [], rfl⟩], AgentLine.nodup_one _⟩,
    ⟨⟨AgentLine.agentWord, none, nothing, [], rfl⟩, rfl, 1, [⟨AgentLine.nameWord, some (0, echo), comment, [], rfl⟩],
      AgentLine.nodup_one _⟩]
  exact ⟨⟨[], sections, by decide⟩, by decide, by decide +kernel⟩

theorem exists_of_port [Host] (path : Path) (text : String) {n : Int}
    (h : ((ofText path text).toOption.map fun r => (r.1.server.port, r.2.length)) = some (n, 0)) :
    ∃ p, ofText path text = .ok (p, []) ∧ p.server.port = n := by
  cases hread : ofText path text with
  | error f => simp [hread, Except.toOption] at h
  | ok r =>
    obtain ⟨p, notices⟩ := r
    simp only [hread, Except.toOption, Option.map_some, Option.some.injEq, Prod.mk.injEq, List.length_eq_zero_iff] at h
    exact ⟨p, by rw [h.2], h.1⟩

section

attribute [local instance] Host.sample

/-- The file is read, with its port. -/
theorem ofText_ownText : ∃ p, ofText ownPath ownText = .ok (p, []) ∧ p.server.port = 9000 :=
  exists_of_port ownPath ownText (by decide +kernel)

/-- Another agent answers on the same port. -/
theorem ownSheet_renamed :
    ∃ p d', load (diskOf ownText) ownPath = (.ok p, diskOf ownText, []) ∧ p.server.port = 9000 ∧
      saveAgent (diskOf ownText) ownPath "package:agent" = (.ok true, d', []) ∧
      load d' ownPath = (.ok (p.withAgent "package:agent"), d', []) := by
  have hlines : '\r' ∉ ownText.toList := by decide
  obtain ⟨f, htext, hf⟩ := exists_ownSheet
  have hfile : (diskOf ownText).readText ownPath = .ok f.text := by
    rw [htext]
    exact readText_diskOf hlines
  obtain ⟨p, hread, hport⟩ := ofText_ownText
  have hload := (load_eq_iff (readText_diskOf hlines)).mpr hread
  have hbasic : ∀ c ∈ "package:agent".toList, c.toNat < 65536 := fun c hc => by
    have hall : ("package:agent".toList.all fun c => c.toNat < 65536) = true := by decide
    simpa using List.all_eq_true.mp hall c hc
  have hsave := saveAgent_diskOf hlines "package:agent"
  exact ⟨p, _, hload, hport, hsave, saveAgent_renames hfile hf hload (by decide) hbasic hsave⟩

/-- A file with a port, and a name with a quote in it as the program itself writes it. -/
def quotedText : String := "server:\n  port: 9000\nagent:\n  name: \"a\\\"b\"\n"

/-- Naming another agent over a name with an escaped quote leaves half of the old name behind. The file is no document
any more, and the port falls back with everything else. -/
theorem escapedQuote_lost :
    ∃ p d', load (diskOf quotedText) ownPath = (.ok p, diskOf quotedText, []) ∧ p.server.port = 9000 ∧
      saveAgent (diskOf quotedText) ownPath "echo" = (.ok true, d', []) ∧
      load d' ownPath = (.ok default, d', [.preferencesUnreadable "prefs.yaml"]) ∧ default.server.port = 8765 := by
  have hlines : '\r' ∉ quotedText.toList := by decide
  obtain ⟨p, hread, hport⟩ := exists_of_port ownPath quotedText (n := 9000) (by decide +kernel)
  have hload := (load_eq_iff (readText_diskOf hlines)).mpr hread
  have hedit : edit "echo" quotedText = "server:\n  port: 9000\nagent:\n  name: \"echo\"b\"\n" := by decide +kernel
  have hlines' : '\r' ∉ (edit "echo" quotedText).toList := by
    rw [hedit]
    decide
  have hbroken : fallsBack ownPath (edit "echo" quotedText) = true := by
    rw [hedit]
    decide +kernel
  exact ⟨p, _, hload, hport, saveAgent_diskOf hlines "echo", load_of_fallsBack (readText_diskOf hlines') hbroken, rfl⟩

end

end ChatRelay.Preferences
