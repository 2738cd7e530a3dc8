import ChatRelay.Proofs.Preferences.Saving

/-!
# Naming two agents one after the other

The place of the name is the same for both, so only what the second edit leaves of the first name counts. A name is
written between quotes, and one that has a quote in it is not recognised as a whole: the value that is replaced ends at
the first quote in it.

- `afterValue_quoteAscii`: what is left behind a written name;
- `editLines_twice`, `edit_twice`: an edit takes another one back exactly if the first name has no quote in it;
- `saveAgent_twice_iff`: the same on files.
-/

namespace ChatRelay

namespace AgentLine

open Text (isBlank)

variable {name name' : String}

/-- What stands behind a written name is found again exactly if the name has no quote in it. -/
theorem afterValue_quoteAscii {behind : List Char} :
    afterValue (Json.quoteAscii name ++ behind) = behind ↔ '"' ∉ name.toList := by
  rw [Json.quoteAscii, List.cons_append, afterValue_quote rfl, List.append_assoc, List.singleton_append]
  constructor
  · intro h hquote
    obtain ⟨left, -, hleft⟩ := afterQuote?_append (quote_mem_escaped.2 hquote) ('"' :: behind)
    rw [hleft, Option.getD_some] at h
    have hlength := congrArg List.length h
    simp only [List.length_append, List.length_cons] at hlength
    omega
  · intro h
    rw [afterQuote?_eq_some.2 ⟨_, mt quote_mem_escaped.1 h, rfl⟩, Option.getD_some]

/-- Lines with one name and then another are those with the second one alone, exactly if the first has no quote in
it. -/
theorem editLines_twice (lines : List (List Char)) :
    editLines name' (editLines name lines) = editLines name' lines ↔ '"' ∉ name.toList := by
  obtain ⟨above, indent, behind, below, hplace⟩ := exists_place lines
  have hentry : nameEntryOn? (indent ++ "name: ".toList ++ Json.quoteAscii name ++ behind) =
      some (indent, ' ' :: (Json.quoteAscii name ++ behind)) :=
    nameEntryOn?_eq_some.2 ⟨by simp, hplace.indented, hplace.indentation⟩
  have hflush : (' ' :: (Json.quoteAscii name ++ behind)).dropWhile isBlank = Json.quoteAscii name ++ behind := rfl
  have hleft : afterValue (Json.quoteAscii name ++ behind) = behind ↔ '"' ∉ name.toList := afterValue_quoteAscii
  rw [hplace.edited, hplace.edited, editLines_entry name' hplace.inside hplace.first hentry, replaceValue, hflush,
    ← hleft]
  simp

/-- A text with one name and then another is that with the second one alone, exactly if the first has no quote in
it. -/
theorem edit_twice (text : String) : edit name' (edit name text) = edit name' text ↔ '"' ∉ name.toList := by
  have hlines : ∀ name text, ∀ line ∈ editLines name (Text.splitLines (String.toList text)), OneLine line :=
    fun name text => oneLine_editLines name (oneLine_splitLines text.toList)
  have hedit : ∀ name text, edit name text = .ofList (joinLines (editLines name (Text.splitLines text.toList))) :=
    fun _ _ => rfl
  rw [hedit name' (edit name text), hedit name' text, String.ofList_inj, joinLines_inj (hlines _ _) (hlines _ _),
    splitLines_edit, editLines_twice]

end AgentLine

namespace Preferences

open AgentLine (edit edit_twice)

/-! ## The file -/

/-- Naming two agents one after the other leaves the file as naming the second one alone would have done, exactly if
there is no quote in the first name. -/
theorem saveAgent_twice_iff {d d₁ d₂ : Disk} {path : Path} {name name' : String} {notices notices' : List Notice}
    (h : saveAgent d path name = (.ok true, d₁, notices)) (h' : saveAgent d₁ path name' = (.ok true, d₂, notices')) :
    ∃ (d' : Disk) (text₂ text' : String), saveAgent d path name' = (.ok true, d', []) ∧
      d₂.readBytes path = .ok text₂.toUTF8 ∧ d'.readBytes path = .ok text'.toUTF8 ∧
      (text₂ = text' ↔ '"' ∉ name.toList) ∧
      ('"' ∉ name.toList → d₂ = d') := by
  obtain ⟨-, text, d₀, hsource, hfirst⟩ := saveAgent_eq_ok.1 h
  obtain ⟨-, hsecond⟩ := (saveAgent_of_source (.file (readText_of_edit hfirst))).1 h'
  rw [Disk.writeText_again hfirst] at hsecond
  obtain ⟨loc, hloc, -⟩ := Disk.writeText_eq_ok.1 hfirst
  obtain ⟨d', halone⟩ : ∃ d', d₀.writeText path (edit name' text) = .ok d' :=
    ⟨_, Disk.writeText_eq_ok.2 ⟨loc, hloc, rfl⟩⟩
  refine ⟨d', _, _, (saveAgent_of_source hsource).2 ⟨rfl, halone⟩, Disk.readBytes_of_writeText hsecond,
    Disk.readBytes_of_writeText halone, edit_twice text, fun hquote => ?_⟩
  rw [(edit_twice text).2 hquote, halone] at hsecond
  exact (Except.ok.inj hsecond).symm

/-- A file with the name of an agent. -/
def shortText : String := "agent:\n  name: x\n"

/-- A name with single quotes and white space in it leaves nothing behind. -/
theorem twice_short :
    ∃ d₁ d₂, saveAgent (diskOf shortText) ownPath "it's\n#" = (.ok true, d₁, []) ∧
      saveAgent d₁ ownPath "echo" = (.ok true, d₂, []) ∧ '"' ∉ "it's\n#".toList ∧
      ∃ (d' : Disk) (text₂ text' : String), saveAgent (diskOf shortText) ownPath "echo" = (.ok true, d', []) ∧
        d₂.readBytes ownPath = .ok text₂.toUTF8 ∧ d'.readBytes ownPath = .ok text'.toUTF8 ∧
        (text₂ = text' ↔ '"' ∉ "it's\n#".toList) ∧ ('"' ∉ "it's\n#".toList → d₂ = d') := by
  have hreturn : '\r' ∉ shortText.toList := by decide
  have hsave := saveAgent_diskOf hreturn "it's\n#"
  have hagain := saveAgent_diskOf (AgentLine.return_not_mem_edit "it's\n#" shortText) "echo"
  exact ⟨_, _, hsave, hagain, by decide, saveAgent_twice_iff hsave hagain⟩

/-- A name with a quote in it leaves its second half behind. -/
theorem quote_left_behind :
    ∃ d₁ d₂ d', saveAgent (diskOf shortText) ownPath "a\"b" = (.ok true, d₁, []) ∧
      saveAgent d₁ ownPath "echo" = (.ok true, d₂, []) ∧
      saveAgent (diskOf shortText) ownPath "echo" = (.ok true, d', []) ∧
      d₂.readText ownPath = .ok "agent:\n  name: \"echo\"b\"\n" ∧
      d'.readText ownPath = .ok "agent:\n  name: \"echo\"\n" := by
  have hreturn : '\r' ∉ shortText.toList := by decide
  have hagain := saveAgent_diskOf (AgentLine.return_not_mem_edit "a\"b" shortText) "echo"
  have hleft : edit "echo" (edit "a\"b" shortText) = "agent:\n  name: \"echo\"b\"\n" := by decide +kernel
  have halone : edit "echo" shortText = "agent:\n  name: \"echo\"\n" := by decide +kernel
  refine ⟨_, _, _, saveAgent_diskOf hreturn "a\"b", hagain, saveAgent_diskOf hreturn "echo", ?_, ?_⟩
  · rw [hleft]
    exact readText_diskOf (by decide)
  · rw [halone]
    exact readText_diskOf (by decide)

end Preferences

end ChatRelay
