import ChatRelay.Proofs.Json.Lines
import ChatRelay.Proofs.Json.RoundTrip
import ChatRelay.Store.Document

/-!
# A document that was saved

Saving a document at a path where a document could be saved once succeeds again and again, whatever the values, and
what was saved is what is loaded.

- `Disk.SameDirectories`: what a path leads to depends on the directories alone;
- `Document.Ready`: the disk and the path are such that documents can be saved;
- `Document.Contains`: what is in the file of a document;
- `Document.save_contains`, `Document.save_spec`: a value that a text can hold is saved and loaded again, and the path
  stays ready.
-/

namespace ChatRelay

namespace Disk

/-! ## Entries after a change -/

variable {d d' : Disk} {loc loc' : Location} {e : Entry}

theorem entryAt?_put_self (h : loc ≠ []) : entryAt? (d.put loc e) loc = some e := by
  simp [put, h, entryAt?]

theorem entryAt?_put_of_ne (h : loc ≠ loc') : entryAt? (d.put loc e) loc' = d.entryAt? loc' := by
  simp [put, Assoc.get?_put_of_ne, h, entryAt?]

theorem ne_nil_of_not_directory (h : d.isDirectory loc = false) : loc ≠ [] := by
  rintro rfl
  exact Bool.noConfusion h

/-! ## Directories -/

/-- A disk has the same directories as another one. -/
def SameDirectories (d d' : Disk) : Prop := ∀ loc, d'.isDirectory loc = d.isDirectory loc

theorem SameDirectories.trans {d'' : Disk} (h : SameDirectories d d') (h' : SameDirectories d' d'') :
    SameDirectories d d'' := fun loc => (h' loc).trans (h loc)

/-- Writing a file where no directory is leaves the directories. -/
theorem sameDirectories_put (bytes : ByteArray) (h : d.isDirectory loc = false) :
    SameDirectories d (d.put loc (.file bytes)) := by
  intro loc'
  by_cases heq : loc = loc'
  · subst heq
    rw [h]
    simp [isDirectory, entryAt?_put_self (ne_nil_of_not_directory h)]
  · simp [isDirectory, entryAt?_put_of_ne heq]

/-- Removing what is no directory leaves the directories. -/
theorem sameDirectories_erase (hd : (Assoc.keys d.entries).Nodup) (h : d.isDirectory loc = false) :
    SameDirectories d (d.erase loc) := by
  intro loc'
  by_cases heq : loc = loc'
  · subst heq
    rw [h]
    simp [isDirectory, entryAt?, erase, Assoc.get?_erase _ hd, ne_nil_of_not_directory h]
  · simp [isDirectory, entryAt?, erase, Assoc.get?_erase _ hd, heq]

/-! ## What paths lead to -/

theorem walk_congr (h : SameDirectories d d') (from_ : Location) (parts : List String) :
    d'.walk from_ parts = d.walk from_ parts := by
  induction parts generalizing from_ with
  | nil => rfl
  | cons part rest ih => simp only [walk, h from_, ih]

theorem locate_congr (h : SameDirectories d d') (p : Path) : d'.locate p = d.locate p := by
  simp only [locate, walk_congr h]

theorem writable_congr (h : SameDirectories d d') (p : Path) : d'.writable p = d.writable p := by
  simp only [writable, locate_congr h, h _]

/-- Where a file can be written the path leads, and no directory is there. -/
theorem writable_eq_ok {p : Path} (h : d.writable p = .ok loc) :
    d.locate p = .ok (some loc) ∧ d.isDirectory loc = false := by
  unfold writable at h
  split at h
  · split at h
    · next hloc =>
      obtain rfl := Except.ok.inj h
      simp only [Bool.and_eq_true, Bool.not_eq_true'] at hloc
      exact ⟨‹_›, hloc.2⟩
    · cases h
  · cases h
  · cases h

/-! ## Making directories -/

theorem isDirectory_iff : d.isDirectory loc = true ↔ d.entryAt? loc = some .directory := by
  unfold isDirectory
  split
  · next h => simp [h]
  · next h => simpa using h

theorem isDirectory_put_directory (h : d.isDirectory loc' = true) : (d.put loc .directory).isDirectory loc' = true := by
  by_cases hnil : loc' = []
  · subst hnil
    rfl
  · by_cases heq : loc = loc'
    · subst heq
      exact isDirectory_iff.2 (entryAt?_put_self hnil)
    · rw [isDirectory_iff, entryAt?_put_of_ne heq]
      exact isDirectory_iff.1 h

/-- Directories stay when others are made. -/
theorem isDirectory_makeAlong (from_ : Location) (parts : List String) (h : d.isDirectory loc = true) :
    (d.makeAlong from_ parts).2.isDirectory loc = true := by
  induction parts generalizing d from_ with
  | nil => exact h
  | cons part rest ih =>
    unfold makeAlong
    split
    · split
      · exact h
      · exact ih _ h
    · split
      · exact h
      · dsimp only
        split
        · exact ih _ h
        · exact h
        · exact ih _ (isDirectory_put_directory h)

theorem nodup_makeAlong {from_ : Location} {parts : List String} (h : (Assoc.keys d.entries).Nodup) :
    (Assoc.keys (d.makeAlong from_ parts).2.entries).Nodup := by
  induction parts generalizing d from_ with
  | nil => exact h
  | cons part rest ih =>
    unfold makeAlong
    split
    · split
      · exact h
      · exact ih h
    · split
      · exact h
      · dsimp only
        split
        · exact ih h
        · exact h
        · exact ih (Assoc.nodup_keys_put _ _ h)

/-- Directories that were made are there the next time. -/
theorem makeAlong_again {from_ : Location} {parts : List String} {d₁ : Disk}
    (h : d.makeAlong from_ parts = (.ok (), d₁)) (hd : ∀ loc, d₁.isDirectory loc = true → d'.isDirectory loc = true) :
    d'.makeAlong from_ parts = (.ok (), d') := by
  induction parts generalizing d from_ with
  | nil => rfl
  | cons part rest ih =>
    unfold makeAlong at h ⊢
    split
    · next hup =>
      rw [if_pos hup] at h
      split
      · next hroot =>
        rw [if_pos hroot] at h
        cases h
      · next hroot =>
        rw [if_neg hroot] at h
        exact ih h
    · next hup =>
      rw [if_neg hup] at h
      split
      · next hlong =>
        rw [if_pos hlong] at h
        cases h
      · next hlong =>
        rw [if_neg hlong] at h
        dsimp only at h ⊢
        -- whichever way the directory came to be there, it is there now
        have hthere (hlater : d₁.isDirectory (from_ ++ [part]) = true) :
            d'.entryAt? (from_ ++ [part]) = some .directory := isDirectory_iff.1 (hd _ hlater)
        split at h
        · next hdir =>
          have hlater := isDirectory_makeAlong (from_ ++ [part]) rest (isDirectory_iff.2 hdir)
          rw [h] at hlater
          rw [hthere hlater]
          exact ih h
        · cases h
        · have hput : (d.put (from_ ++ [part]) .directory).isDirectory (from_ ++ [part]) = true :=
            isDirectory_iff.2 (entryAt?_put_self (by simp))
          have hlater := isDirectory_makeAlong (from_ ++ [part]) rest hput
          rw [h] at hlater
          rw [hthere hlater]
          exact ih h

theorem makeDirectories_again {p : Path} {d₁ : Disk} (h : d.makeDirectories p = (.ok (), d₁))
    (hd : SameDirectories d₁ d') : d'.makeDirectories p = (.ok (), d') := by
  unfold makeDirectories at h ⊢
  split
  · rfl
  · next hroot =>
    rw [if_neg hroot] at h
    split
    · next hnul =>
      rw [if_pos hnul] at h
      cases h
    · next hnul =>
      rw [if_neg hnul] at h
      split
      · next hlong =>
        rw [if_pos hlong] at h
        cases h
      · next hlong =>
        rw [if_neg hlong] at h
        exact makeAlong_again h fun loc hloc => (hd loc).trans hloc

theorem nodup_makeDirectories {p : Path} (h : (Assoc.keys d.entries).Nodup) :
    (Assoc.keys (d.makeDirectories p).2.entries).Nodup := by
  unfold makeDirectories
  split
  · exact h
  · split
    · exact h
    · split
      · exact h
      · exact nodup_makeAlong h

/-! ## The working directory -/

/-- Nothing has to be made for a file in the working directory. -/
theorem makeDirectories_here (d : Disk) : d.makeDirectories ⟨0, []⟩ = (.ok (), d) := by
  have hlong : Path.isLong ⟨0, []⟩ = false := by decide
  simp [makeDirectories, Path.isRoot, Path.hasNul, hlong, makeAlong]

/-- A name leads to its place in the working directory. -/
theorem locate_here {name : String} (hnul : '\x00' ∉ name.toList) (hlong : Path.isLongName name = false)
    (hup : name ≠ "..") : d.locate ⟨0, [name]⟩ = .ok (some [name]) := by
  have hpath : Path.toString ⟨0, [name]⟩ = name := by simp [Path.toString]
  have hshort : Path.isLong ⟨0, [name]⟩ = false := by
    simp only [Path.isLongName, decide_eq_false_iff_not] at hlong
    simp only [Path.isLong, hpath, decide_eq_false_iff_not]
    omega
  have hroot : d.isDirectory [] = true := rfl
  simp [locate, Path.hasNul, hnul, hshort, walk, hroot, hup, hlong]

/-- A file can be written in the working directory, unless a directory is in its place. -/
theorem writable_here {name : String} (hnul : '\x00' ∉ name.toList) (hlong : Path.isLongName name = false)
    (hup : name ≠ "..") (hfile : d.isDirectory [name] = false) : d.writable ⟨0, [name]⟩ = .ok [name] := by
  have hroot : d.isDirectory [] = true := rfl
  simp [writable, locate_here hnul hlong hup, hroot, hfile]

/-- Where a directory is no file can be written. -/
theorem writable_of_directory {p : Path} (h : d.locate p = .ok (some loc)) (hdir : d.isDirectory loc = true) :
    d.writable p = .error .fileSystem := by
  simp [writable, h, hdir]

/-! ## Files -/

/-- What a path leads to that leads somewhere. -/
theorem at?_of_locate {p : Path} (h : d.locate p = .ok (some loc)) : d.at? p = .ok (d.entryAt? loc) := by
  have hroot : p.isRoot = false := by
    by_contra hroot
    have hslashes : p.slashes ≠ 0 := by
      simp only [Path.isRoot, Bool.not_eq_false, Bool.and_eq_true] at hroot
      simpa using hroot.1
    unfold locate at h
    rw [if_neg hslashes] at h
    repeat' split at h
    all_goals cases h
  simp [at?, hroot, h, Except.map]

/-- What a path leads to where a file can be written. -/
theorem at?_of_writable {p : Path} (h : d.writable p = .ok loc) : d.at? p = .ok (d.entryAt? loc) :=
  at?_of_locate (writable_eq_ok h).1

theorem readBytes_of_writable {p : Path} {bytes : ByteArray} (h : d.writable p = .ok loc)
    (hfile : d.entryAt? loc = some (.file bytes)) : d.readBytes p = .ok bytes := by
  simp [readBytes, at?_of_writable h, hfile]

theorem exists_of_writable {p : Path} (h : d.writable p = .ok loc) : d.exists p = .ok (d.entryAt? loc).isSome := by
  have hnul : p.hasNul = false := by
    obtain ⟨hloc, -⟩ := writable_eq_ok h
    by_contra hnul
    simp [locate, Bool.eq_true_of_not_eq_false hnul] at hloc
  simp [«exists», hnul, at?_of_writable h, Except.map]

/-- The disk after a file was written at one place and moved to another. -/
def replaced (d : Disk) (source target : Location) (bytes : ByteArray) : Disk :=
  ((d.put source (.file bytes)).erase source).put target (.file bytes)

theorem sameDirectories_replaced (hd : (Assoc.keys d.entries).Nodup) {source target : Location} (bytes : ByteArray)
    (hsource : d.isDirectory source = false) (htarget : d.isDirectory target = false) :
    SameDirectories d (d.replaced source target bytes) := by
  have hput := sameDirectories_put bytes hsource
  have herase : SameDirectories d ((d.put source (.file bytes)).erase source) :=
    hput.trans (sameDirectories_erase (Assoc.nodup_keys_put _ _ hd) ((hput source).trans hsource))
  exact herase.trans (sameDirectories_put bytes ((herase target).trans htarget))

theorem nodup_replaced (hd : (Assoc.keys d.entries).Nodup) (source target : Location) (bytes : ByteArray) :
    (Assoc.keys (d.replaced source target bytes).entries).Nodup :=
  Assoc.nodup_keys_put _ _ (Assoc.nodup_keys_erase (Assoc.nodup_keys_put _ _ hd))

section

variable {source target : Location} {p q : Path} (bytes : ByteArray)

theorem readBytes_put (hq : d.writable q = .ok source) :
    (d.put source (.file bytes)).writable q = .ok source ∧ (d.put source (.file bytes)).readBytes q = .ok bytes := by
  have hsource := (writable_eq_ok hq).2
  have hq' := (writable_congr (sameDirectories_put bytes hsource) q).trans hq
  exact ⟨hq', readBytes_of_writable hq' (entryAt?_put_self (ne_nil_of_not_directory hsource))⟩

/-- A file that was just written is moved. -/
theorem rename_put (hq : d.writable q = .ok source) (hp : d.writable p = .ok target) :
    (d.put source (.file bytes)).rename q p = .ok (d.replaced source target bytes) := by
  obtain ⟨hq', hbytes⟩ := readBytes_put bytes hq
  have hp' := (writable_congr (sameDirectories_put bytes (writable_eq_ok hq).2) p).trans hp
  simp [rename, hbytes, hp', (writable_eq_ok hq').1, replaced, bind, Except.bind, pure, Except.pure]

theorem rename_put_error {f : Fault} (hq : d.writable q = .ok source) (hp : d.writable p = .error f) :
    (d.put source (.file bytes)).rename q p = .error f := by
  obtain ⟨hq', hbytes⟩ := readBytes_put bytes hq
  have hp' := (writable_congr (sameDirectories_put bytes (writable_eq_ok hq).2) p).trans hp
  simp [rename, hbytes, hp', bind, Except.bind]

end

end Disk

namespace Document

/-! ## Where a document is saved -/

/-- The value that a document holds after a save: with its keys sorted, or as it is. -/
def kept (v : Json) (sorted : Bool) : Json := if sorted then v.sortKeys else v

section

variable [Host]

theorem text_eq (v : Json) (sorted : Bool) : text v sorted = (kept v sorted).encode := rfl

/-- A value that was saved is one that the host turns into text. -/
theorem within_of_save {d d' : Disk} {p : Path} {v : Json} {sorted : Bool}
    (h : save d p v sorted = (.ok (), d')) : (kept v sorted).refusal? 0 = none := by
  by_contra hrefused
  obtain ⟨f, hf⟩ := Option.ne_none_iff_exists'.1 hrefused
  unfold save Disk.withParent at h
  rcases hmade : d.makeDirectories p.parent with ⟨f | _, d₁⟩
  · simp [hmade] at h
  rcases hdraft : draft p with f | q
  · simp [hmade, hdraft] at h
  · simp [hmade, hdraft, text_eq, Json.encode_of_some hf, Except.bind] at h

end

/-- The places of a document and of its draft on a disk that has the directories that they lie in. -/
structure Slot (d : Disk) (p q : Path) (source target : Location) : Prop where
  distinct : (Assoc.keys d.entries).Nodup
  directories : d.makeDirectories p.parent = (.ok (), d)
  draft : draft p = .ok q
  source : d.writable q = .ok source
  target : d.writable p = .ok target

theorem Slot.replaced {d : Disk} {p q : Path} {source target : Location} (h : Slot d p q source target)
    (bytes : ByteArray) : Slot (d.replaced source target bytes) p q source target := by
  have hsame := Disk.sameDirectories_replaced h.distinct bytes (Disk.writable_eq_ok h.source).2
    (Disk.writable_eq_ok h.target).2
  exact ⟨Disk.nodup_replaced h.distinct source target bytes, Disk.makeDirectories_again h.directories hsame, h.draft,
    (Disk.writable_congr hsame q).trans h.source, (Disk.writable_congr hsame p).trans h.target⟩

section

variable [Host]

/-- Documents can be saved at a path of a disk. -/
structure Ready (d : Disk) (p : Path) : Prop where
  distinct : (Assoc.keys d.entries).Nodup
  saves : ∃ v d', save d p v false = (.ok (), d')

/-- The first of all saves makes the directories. -/
theorem Ready.slot {d : Disk} {p : Path} (h : Ready d p) :
    ∃ d₁ q source target, d.makeDirectories p.parent = (.ok (), d₁) ∧ Slot d₁ p q source target := by
  obtain ⟨v, d', hsave⟩ := h.saves
  have htext : text v false = .ok v.indented := Json.encode_of_none (within_of_save hsave)
  unfold save Disk.withParent at hsave
  rcases hmade : d.makeDirectories p.parent with ⟨f | _, d₁⟩
  · simp [hmade] at hsave
  rcases hdraft : draft p with f | q
  · simp [hmade, hdraft] at hsave
  rcases hsource : d₁.writable q with f | source
  · simp [hmade, hdraft, htext, Disk.writeText, hsource, Except.map, Except.bind] at hsave
  rcases htarget : d₁.writable p with f | target
  · simp [hmade, hdraft, htext, Disk.writeText, hsource, Except.map, Except.bind, Disk.keep,
      Disk.rename_put_error _ hsource htarget] at hsave
  have hdistinct := Disk.nodup_makeDirectories (p := p.parent) h.distinct
  rw [hmade] at hdistinct
  exact ⟨d₁, q, source, target, rfl, hdistinct, Disk.makeDirectories_again hmade fun _ => rfl, hdraft, hsource, htarget⟩

/-- A save of a value that the host turns into text replaces the document, once its directories are there. -/
theorem Slot.save {d d₁ : Disk} {p q : Path} {source target : Location} (h : Slot d₁ p q source target)
    (hmade : d.makeDirectories p.parent = (.ok (), d₁)) {v : Json} {sorted : Bool}
    (hv : (kept v sorted).refusal? 0 = none) :
    save d p v sorted = (.ok (), d₁.replaced source target (kept v sorted).indented.toUTF8) := by
  simp [Document.save, Disk.withParent, hmade, h.draft, text_eq, Json.encode_of_none hv, Disk.writeText, h.source,
    Except.map, Except.bind, Disk.keep, Disk.rename_put _ h.source h.target]

theorem Slot.ready {d : Disk} {p q : Path} {source target : Location} (h : Slot d p q source target) : Ready d p :=
  ⟨h.distinct, .null, _, h.save h.directories rfl⟩

end

/-- A document can be saved in the working directory of an empty disk. -/
theorem slot_empty :
    Slot .empty ⟨0, ["chat.json"]⟩ ⟨0, ["chat.json.tmp"]⟩ ["chat.json.tmp"] ["chat.json"] where
  distinct := List.nodup_nil
  directories := Disk.makeDirectories_here _
  draft := rfl
  source := Disk.writable_here (by decide) (by decide) (by decide) rfl
  target := Disk.writable_here (by decide) (by decide) (by decide) rfl

/-! ## Texts -/

theorem fromUTF8?_toUTF8 (s : String) : String.fromUTF8? s.toUTF8 = some s := by
  unfold String.fromUTF8?
  rw [dif_pos (show s.toUTF8.IsValidUTF8 from s.isValidUTF8)]
  rfl

theorem unifyNewlines_eq_self {cs : List Char} (h : '\r' ∉ cs) : Text.unifyNewlines cs = cs := by
  induction cs with
  | nil => rfl
  | cons c cs ih =>
    obtain ⟨hc, hcs⟩ := not_or.1 (mt List.mem_cons.2 h)
    rw [Text.unifyNewlines.eq_3 _ _ (fun cs' heq => absurd heq.symm hc), ih hcs, if_neg (Ne.symm hc)]

/-- The text of a value is read as it was written. -/
theorem decode_indented (v : Json) : Disk.decode v.indented.toUTF8 = .ok v.indented := by
  have hlines : '\r' ∉ v.indented.toList := by
    rw [Json.indented, String.toList_ofList]
    exact (Json.tame_write .indented v 0).noReturn
  simp only [Disk.decode, fromUTF8?_toUTF8, unifyNewlines_eq_self hlines, String.ofList_toList]

/-! ## What is loaded -/

/-- The file of a document holds what was moved there. -/
theorem Slot.readBytes_replaced {d : Disk} {p q : Path} {source target : Location} (h : Slot d p q source target)
    (bytes : ByteArray) : (d.replaced source target bytes).readBytes p = .ok bytes :=
  Disk.readBytes_of_writable (h.replaced bytes).target
    (Disk.entryAt?_put_self (Disk.ne_nil_of_not_directory (Disk.writable_eq_ok h.target).2))

section

variable [Host]

/-- What the file of a document contains, nothing when there is no file. -/
inductive Contains (d : Disk) (p : Path) : Option Json → Prop
  | absent : d.exists p = .ok false → Contains d p none
  | text {s : String} {v : Json} : d.exists p = .ok true → d.readText p = .ok s → Json.read s = .ok v →
      Contains d p (some v)

/-- What a file contains is loaded. -/
theorem Contains.load {d : Disk} {p : Path} {v : Option Json} (h : Contains d p v) :
    load d p = (.ok (v.getD default), []) := by
  cases h with
  | absent habsent => simp [Document.load, habsent, Except.bind]
  | text hthere htext hread => simp [Document.load, hthere, htext, hread, Except.bind, Except.map]

theorem contains_empty : Contains .empty ⟨0, ["chat.json"]⟩ none :=
  .absent (Disk.exists_of_writable slot_empty.target)

/-- The file of a document that was saved contains it. -/
theorem Slot.contains {d : Disk} {p q : Path} {source target : Location} (h : Slot d p q source target) {v : Json}
    (hv : v.Legible) : Contains (d.replaced source target v.indented.toUTF8) p (some v) := by
  have htarget := (h.replaced v.indented.toUTF8).target
  have hfile : Disk.entryAt? (d.replaced source target v.indented.toUTF8) target = some (.file v.indented.toUTF8) :=
    Disk.entryAt?_put_self (Disk.ne_nil_of_not_directory (Disk.writable_eq_ok h.target).2)
  refine .text ?_ ?_ (Json.read_indented hv)
  · rw [Disk.exists_of_writable htarget, hfile, Option.isSome_some]
  · rw [Disk.readText, h.readBytes_replaced, Except.bind, decode_indented]

/-- A value that a text can hold is saved, and others can be saved in its place. -/
theorem save_contains {d : Disk} {p : Path} (h : Ready d p) {v : Json} (hv : v.Legible) :
    ∃ d', save d p v false = (.ok (), d') ∧ Ready d' p ∧ Contains d' p (some v) := by
  obtain ⟨d₁, q, source, target, hmade, hslot⟩ := h.slot
  have hwithin : (kept v false).refusal? 0 = none := hv.within
  exact ⟨_, hslot.save hmade hwithin, (hslot.replaced _).ready, hslot.contains hv⟩

/-- A value that a text can hold is saved and loaded again, and others can be saved in its place. -/
theorem save_spec {d : Disk} {p : Path} (h : Ready d p) {v : Json} (hv : v.Legible) :
    ∃ d', save d p v false = (.ok (), d') ∧ Ready d' p ∧ load d' p = (.ok v, []) := by
  obtain ⟨d', hsave, hready, hcontains⟩ := save_contains h hv
  exact ⟨d', hsave, hready, hcontains.load⟩

end

end Document

end ChatRelay
