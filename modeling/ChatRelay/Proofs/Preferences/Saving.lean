import ChatRelay.Preferences.File
import ChatRelay.Proofs.Files.Contents
import ChatRelay.Proofs.Preferences.Places

/-!
# Naming the agent in a file

- `splitLines_edit`: the lines of an edited text are the edited lines, and it has no carriage return
  (`return_not_mem_edit`);
- `Source`: the text that is edited, of the file or of a new one where there is none;
- `saveAgent_eq_ok`: the agent was named exactly when there was such a text, and it was written with the name.
-/

namespace ChatRelay

namespace AgentLine

/-! ## Texts -/

section

variable (name text : String)

/-- The lines of an edited text are the edited lines. -/
theorem splitLines_edit :
    Text.splitLines (edit name text).toList = editLines name (Text.splitLines text.toList) := by
  rw [edit, String.toList_ofList, splitLines_joinLines (oneLine_editLines name (oneLine_splitLines _))]

/-- An edited text has no carriage return. -/
theorem return_not_mem_edit : '\r' ∉ (edit name text).toList := by
  rw [edit, String.toList_ofList, joinLines]
  intro h
  obtain ⟨line, hline, hmem⟩ := List.mem_flatMap.1 h
  rcases List.mem_append.1 hmem with hmem | hmem
  · exact absurd (oneLine_editLines name (oneLine_splitLines _) line hline '\r' hmem) (by decide)
  · exact absurd hmem (by decide)

end

end AgentLine

namespace Preferences

open AgentLine (edit)

/-! ## Files -/

section Files

variable {d d' d₁ : Disk} {path : Path} {text name : String} {notices : List Notice}

/-- A file that is read is there. -/
theorem exists_of_readText (h : d.readText path = .ok text) : d.exists path = .ok true := by
  cases hbytes : d.readBytes path with
  | error f => simp [Disk.readText, hbytes, Except.bind] at h
  | ok bytes => exact Disk.exists_of_readBytes hbytes

/-- A text without carriage returns that was written is read. -/
theorem readText_of_writeText (h : d.writeText path text = .ok d') (hlines : '\r' ∉ text.toList) :
    d'.readText path = .ok text := by
  rw [Disk.readText, Disk.readBytes_of_writeText h, Except.bind, Disk.decode_toUTF8, Disk.unified_eq_self hlines]

/-- The text that is edited, and the disk then: that of the file, or of a new one where there is none, when the
directories that it lies in are made. -/
inductive Source (d : Disk) (path : Path) : String → Disk → Prop
  | file {text : String} : d.readText path = .ok text → Source d path text d
  | new {d₁ : Disk} : d.exists path = .ok false → d.makeDirectories path.parent = (.ok (), d₁) →
      Source d path newFile d₁

/-- A file that is read is written with another name. -/
theorem renameAgent_eq (htext : d.readText path = .ok text) :
    renameAgent d path name = d.keep (d.writeText path (edit name text)) := by
  simp only [renameAgent, exists_of_readText htext, htext, writeAgent]

theorem saveAgent_keep {result : Except Fault Disk} (h : renameAgent d path name = d₁.keep result) :
    saveAgent d path name = (.ok true, d', notices) ↔ notices = [] ∧ result = .ok d' := by
  rw [saveAgent, h]
  cases result with
  | ok d₂ =>
    simp only [Disk.keep, Prod.mk.injEq, true_and, Except.ok.injEq]
    constructor
    · rintro ⟨rfl, rfl⟩
      exact ⟨rfl, rfl⟩
    · rintro ⟨rfl, rfl⟩
      exact ⟨rfl, rfl⟩
  | error f => cases f <;> simp [Disk.keep]

theorem saveAgent_of_source (h : Source d path text d₁) :
    saveAgent d path name = (.ok true, d', notices) ↔
      notices = [] ∧ d₁.writeText path (edit name text) = .ok d' := by
  cases h with
  | file htext => exact saveAgent_keep (renameAgent_eq htext)
  | new habsent hmake =>
    have hrename : renameAgent d path name = d₁.keep (d₁.writeText path (edit name newFile)) := by
      simp only [renameAgent, habsent, Disk.withParent, hmake, writeAgent]
    exact saveAgent_keep hrename

/-- Without a text to edit the agent is not named. -/
theorem exists_source (h : saveAgent d path name = (.ok true, d', notices)) : ∃ text d₁, Source d path text d₁ := by
  cases hexists : d.exists path with
  | error f => cases f <;> simp [saveAgent, renameAgent, hexists] at h
  | ok there =>
    cases there with
    | true =>
      cases htext : d.readText path with
      | error f => cases f <;> simp [saveAgent, renameAgent, hexists, htext] at h
      | ok text => exact ⟨text, d, .file htext⟩
    | false =>
      rcases hmake : d.makeDirectories path.parent with ⟨made, d₁⟩
      cases made with
      | error f => cases f <;> simp [saveAgent, renameAgent, Disk.withParent, hexists, hmake] at h
      | ok => exact ⟨newFile, d₁, .new hexists hmake⟩

/-- The agent is named exactly when a text is there to be edited, and it is written with the name. -/
theorem saveAgent_eq_ok : saveAgent d path name = (.ok true, d', notices) ↔
    notices = [] ∧ ∃ text d₁, Source d path text d₁ ∧ d₁.writeText path (edit name text) = .ok d' := by
  constructor
  · intro h
    obtain ⟨text, d₁, hsource⟩ := exists_source h
    obtain ⟨hnotices, hwrite⟩ := (saveAgent_of_source hsource).1 h
    exact ⟨hnotices, text, d₁, hsource, hwrite⟩
  · rintro ⟨hnotices, text, d₁, hsource, hwrite⟩
    exact (saveAgent_of_source hsource).2 ⟨hnotices, hwrite⟩

/-- What was saved is the file with another name. -/
theorem writeText_of_saveAgent (htext : d.readText path = .ok text)
    (h : saveAgent d path name = (.ok true, d', notices)) : d.writeText path (edit name text) = .ok d' :=
  ((saveAgent_of_source (.file htext)).1 h).2

/-- What was written is read. -/
theorem readText_of_edit (h : d.writeText path (edit name text) = .ok d') :
    d'.readText path = .ok (edit name text) :=
  readText_of_writeText h (AgentLine.return_not_mem_edit name text)

end Files

/-! ## One file -/

/-- A disk with a file of preferences. -/
def diskOf (text : String) : Disk := ⟨[(["prefs.yaml"], .file text.toUTF8)]⟩

/-- The path of the file. -/
def ownPath : Path := ⟨0, ["prefs.yaml"]⟩

theorem writable_diskOf (text : String) : (diskOf text).writable ownPath = .ok ["prefs.yaml"] :=
  Disk.writable_here (by decide) (by decide) (by decide) rfl

theorem readText_diskOf {text : String} (h : '\r' ∉ text.toList) : (diskOf text).readText ownPath = .ok text := by
  rw [Disk.readText, Disk.readBytes_of_writable (writable_diskOf text) rfl, Except.bind, Disk.decode_toUTF8,
    Disk.unified_eq_self h]

theorem saveAgent_diskOf {text : String} (h : '\r' ∉ text.toList) (name : String) :
    saveAgent (diskOf text) ownPath name = (.ok true, diskOf (edit name text), []) := by
  rw [saveAgent, renameAgent_eq (readText_diskOf h), Disk.writeText, writable_diskOf]
  rfl

end Preferences

end ChatRelay
