import ChatRelay.Proofs.Files.Reading

/-!
# The files on a disk

What the operations on a disk leave of the files. A path is followed through directories alone, so the files are told
by their places, and a path only comes in where it leads to one.

- `Disk.file?`: the file at a place, and `Disk.Leads`: the place that a path leads to;
- `Disk.file?_makeDirectories`: making directories changes no file, wherever it comes to an end;
- `Disk.file?_put`, `Disk.file?_erase`: writing and removing a file changes no other;
- `Disk.readBytes_of_leads`, `Disk.Leads.mono`: what is read by a path is the file that it leads to, and it leads there
  as long as directories are only made;
- `Disk.writeText_again`: of two texts written by one path the last one counts.
-/

namespace ChatRelay.Disk

variable {d d' : Disk} {loc loc' : Location} {p : Path} {bytes : ByteArray}

/-! ## Files by their places -/

/-- The bytes of the file at a place, if a file is there. -/
def file? (d : Disk) (loc : Location) : Option ByteArray :=
  match d.entryAt? loc with
  | some (.file bytes) => some bytes
  | _ => none

/-- A path leads to a place. -/
def Leads (d : Disk) (p : Path) (loc : Location) : Prop := d.locate p = .ok (some loc)

/-- Writing a file changes the file at that place and no other. -/
theorem file?_put (hloc : loc ≠ []) :
    (d.put loc (.file bytes)).file? loc' = if loc = loc' then some bytes else d.file? loc' := by
  by_cases heq : loc = loc'
  · subst heq
    simp [file?, entryAt?_put_self hloc]
  · simp [file?, entryAt?_put_of_ne heq, heq]

/-- A directory that is made where nothing was changes no file. -/
theorem file?_put_directory (hloc : d.entryAt? loc = none) : (d.put loc .directory).file? loc' = d.file? loc' := by
  have hne : loc ≠ [] := by
    rintro rfl
    simp [entryAt?] at hloc
  by_cases heq : loc = loc'
  · subst heq
    simp [file?, entryAt?_put_self hne, hloc]
  · simp [file?, entryAt?_put_of_ne heq]

/-- Removing a file changes nothing at other places. -/
theorem entryAt?_erase (hd : (Assoc.keys d.entries).Nodup) (hloc : loc ≠ []) :
    Disk.entryAt? (d.erase loc) loc' = if loc = loc' then none else d.entryAt? loc' := by
  by_cases heq : loc = loc'
  · subst heq
    simp [entryAt?, erase, Assoc.get?_erase _ hd, hloc]
  · simp [entryAt?, erase, Assoc.get?_erase _ hd, heq]

theorem file?_erase (hd : (Assoc.keys d.entries).Nodup) (hloc : loc ≠ []) :
    (d.erase loc).file? loc' = if loc = loc' then none else d.file? loc' := by
  by_cases heq : loc = loc'
  · simp only [file?, entryAt?_erase hd hloc, if_pos heq]
  · simp only [file?, entryAt?_erase hd hloc, if_neg heq]

/-! ## Making directories -/

theorem file?_makeAlong (from_ : Location) (parts : List String) :
    (d.makeAlong from_ parts).2.file? loc = d.file? loc := by
  induction parts generalizing d from_ with
  | nil => rfl
  | cons part rest ih =>
    unfold makeAlong
    split
    · split
      · rfl
      · exact ih _
    · split
      · rfl
      · dsimp only
        split
        · exact ih _
        · rfl
        · next habsent => rw [ih, file?_put_directory habsent]

/-- Making directories changes no file, even if it fails on its way. -/
theorem file?_makeDirectories (d : Disk) (p : Path) (loc : Location) :
    (d.makeDirectories p).2.file? loc = d.file? loc := by
  unfold makeDirectories
  split
  · rfl
  · split
    · rfl
    · split
      · rfl
      · exact file?_makeAlong [] p.parts

/-- Directories stay when others are made. -/
theorem isDirectory_makeDirectories (p : Path) (h : d.isDirectory loc = true) :
    (d.makeDirectories p).2.isDirectory loc = true := by
  unfold makeDirectories
  split
  · exact h
  · split
    · exact h
    · split
      · exact h
      · exact isDirectory_makeAlong [] p.parts h

/-! ## What a path leads to -/

/-- A way goes on from a directory: up, unless it is the uppermost one, or to a name that is not too long. -/
theorem walk_cons {from_ : Location} {part : String} {rest : List String} :
    d.walk from_ (part :: rest) = .ok (some loc) ↔
      d.isDirectory from_ = true ∧
        (part = ".." ∧ from_ ≠ [] ∧ d.walk from_.dropLast rest = .ok (some loc) ∨
          part ≠ ".." ∧ Path.isLongName part = false ∧ d.walk (from_ ++ [part]) rest = .ok (some loc)) := by
  rw [walk]
  by_cases hdir : d.isDirectory from_ = true
  · by_cases hup : part = ".."
    · by_cases hroot : from_ = [] <;> simp [hdir, hup, hroot]
    · cases hlong : Path.isLongName part <;> simp [hdir, hup]
  · simp [hdir]

/-- A way through several parts goes through the first ones first. -/
theorem walk_append {from_ : Location} {parts rest : List String} :
    d.walk from_ (parts ++ rest) = .ok (some loc) ↔
      ∃ mid, d.walk from_ parts = .ok (some mid) ∧ d.walk mid rest = .ok (some loc) := by
  induction parts generalizing from_ with
  | nil => simp [walk]
  | cons part parts ih =>
    rw [List.cons_append, walk_cons]
    simp only [walk_cons, ih]
    constructor
    · rintro ⟨hdir, ⟨hup, hroot, mid, hmid, hrest⟩ | ⟨hup, hlong, mid, hmid, hrest⟩⟩
      · exact ⟨mid, ⟨hdir, .inl ⟨hup, hroot, hmid⟩⟩, hrest⟩
      · exact ⟨mid, ⟨hdir, .inr ⟨hup, hlong, hmid⟩⟩, hrest⟩
    · rintro ⟨mid, ⟨hdir, ⟨hup, hroot, hmid⟩ | ⟨hup, hlong, hmid⟩⟩, hrest⟩
      · exact ⟨hdir, .inl ⟨hup, hroot, mid, hmid, hrest⟩⟩
      · exact ⟨hdir, .inr ⟨hup, hlong, mid, hmid, hrest⟩⟩

theorem walk_mono (h : ∀ loc, d.isDirectory loc = true → d'.isDirectory loc = true) {from_ : Location}
    {parts : List String} (hwalk : d.walk from_ parts = .ok (some loc)) : d'.walk from_ parts = .ok (some loc) := by
  induction parts generalizing from_ with
  | nil => exact hwalk
  | cons part rest ih =>
    obtain ⟨hdir, ⟨hup, hroot, hrest⟩ | ⟨hup, hlong, hrest⟩⟩ := walk_cons.1 hwalk
    · exact walk_cons.2 ⟨h _ hdir, .inl ⟨hup, hroot, ih hrest⟩⟩
    · exact walk_cons.2 ⟨h _ hdir, .inr ⟨hup, hlong, ih hrest⟩⟩

/-- A path leads somewhere if it is no path from the root, is none too long, and can be walked part by part. -/
theorem leads_iff : d.Leads p loc ↔
    p.hasNul = false ∧ p.isLong = false ∧ p.slashes = 0 ∧ d.walk [] p.parts = .ok (some loc) := by
  unfold Leads locate
  cases p.hasNul
  · cases p.isLong
    · by_cases hslashes : p.slashes = 0
      · simp [hslashes]
      · simp only [hslashes, Bool.false_eq_true, if_false, false_and, and_false, iff_false]
        split <;> simp
    · simp
  · simp

/-- A path that leads to a place leads there also when directories have been made. -/
theorem Leads.mono (hp : d.Leads p loc) (h : ∀ loc, d.isDirectory loc = true → d'.isDirectory loc = true) :
    d'.Leads p loc := by
  obtain ⟨hnul, hlong, hslashes, hwalk⟩ := leads_iff.1 hp
  exact leads_iff.2 ⟨hnul, hlong, hslashes, walk_mono h hwalk⟩

theorem Leads.unique (h : d.Leads p loc) (h' : d.Leads p loc') : loc = loc' := by
  rw [Leads, h] at h'
  simpa using h'

/-- What is read by a path is the file that it leads to, and the file system refuses where no file is. -/
theorem readBytes_of_leads (h : d.Leads p loc) : d.readBytes p = (d.file? loc).elim (.error .fileSystem) .ok := by
  rw [readBytes, at?_of_locate h, file?]
  split <;> simp_all

/-- A path leads to the place where a file can be written by it. -/
theorem leads_of_writable (h : d.writable p = .ok loc) : d.Leads p loc := (writable_eq_ok h).1

/-! ## Writing -/

section

variable {text text' : String}

theorem writeText_eq_ok :
    d.writeText p text = .ok d' ↔ ∃ loc, d.writable p = .ok loc ∧ d.put loc (.file text.toUTF8) = d' := by
  rw [writeText]
  cases d.writable p <;> simp [Except.map]

/-- A text that was written is what the file holds. -/
theorem readBytes_of_writeText (h : d.writeText p text = .ok d') : d'.readBytes p = .ok text.toUTF8 := by
  obtain ⟨loc, hloc, rfl⟩ := writeText_eq_ok.1 h
  exact (readBytes_put text.toUTF8 hloc).2

/-- Of two texts that are written by one path the last one counts. -/
theorem writeText_again (h : d.writeText p text = .ok d') : d'.writeText p text' = d.writeText p text' := by
  obtain ⟨loc, hloc, rfl⟩ := writeText_eq_ok.1 h
  rw [writeText, writeText, hloc, (readBytes_put text.toUTF8 hloc).1, Except.map, Except.map]
  simp only [put, Assoc.put_put]

end

end ChatRelay.Disk
