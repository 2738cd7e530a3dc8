import ChatRelay.Proofs.Files.Contents
import ChatRelay.Proofs.Store.Holdings

/-!
# A document is replaced whole or not at all

A new document is written to a draft beside the file and moved into its place. Every step of that can be refused: the
directories may not be there to be made, the value may have no text, the draft or the file may have a directory in its
place. Whatever is refused, no file is changed but the draft.

- `Disk.Keeps`: the files of a disk are as they were, but for some places, and no directory is gone;
- `Document.leads_draft_ne`: the draft of a document never takes the place of its file;
- `Document.Untouched`, `Document.Replaced`: what is left of the disk after an attempt that failed, and after one that
  did not;
- `Document.save_attempt`: a save is one of the two;
- `Storage.write_whole_or_not`: so is every change of a store in a file.
-/

namespace ChatRelay

namespace Disk

variable {d d' d'' : Disk} {out out' : Location → Prop}

/-- The files of a disk are as they were, but for those at some places, and no directory is gone. -/
structure Keeps (d d' : Disk) (out : Location → Prop) : Prop where
  files : ∀ loc, ¬out loc → d'.file? loc = d.file? loc
  directories : ∀ loc, d.isDirectory loc = true → d'.isDirectory loc = true

theorem keeps_refl (d : Disk) (out : Location → Prop) : Keeps d d out := ⟨fun _ _ => rfl, fun _ h => h⟩

theorem Keeps.trans (h : Keeps d d' out) (h' : Keeps d' d'' out) : Keeps d d'' out :=
  ⟨fun loc hloc => (h'.files loc hloc).trans (h.files loc hloc),
    fun loc hloc => h'.directories loc (h.directories loc hloc)⟩

/-- Making directories keeps all files, even if it fails on its way. -/
theorem keeps_makeDirectories (d : Disk) (p : Path) (out : Location → Prop) : Keeps d (d.makeDirectories p).2 out :=
  ⟨fun loc _ => file?_makeDirectories d p loc, fun _ h => isDirectory_makeDirectories p h⟩

/-- Writing a file where no directory is keeps the files at other places. -/
theorem keeps_put {loc : Location} (bytes : ByteArray) (h : d.isDirectory loc = false) (hout : out loc) :
    Keeps d (d.put loc (.file bytes)) out := by
  refine ⟨fun loc' hloc' => ?_, fun loc' hdir => (sameDirectories_put bytes h loc').trans hdir⟩
  have hne : loc ≠ loc' := by
    rintro rfl
    exact hloc' hout
  rw [file?_put (ne_nil_of_not_directory h), if_neg hne]

/-- What a path is read as stays, if it leads to a place whose file is kept. -/
theorem Keeps.readBytes (h : Keeps d d' out) {p : Path} {loc : Location} (hp : d.Leads p loc) (hloc : ¬out loc) :
    d'.readBytes p = d.readBytes p := by
  rw [readBytes_of_leads hp, readBytes_of_leads (hp.mono h.directories), h.files loc hloc]

end Disk

namespace Document

open Disk (Keeps Leads)

variable {d d' : Disk} {p q : Path}

/-! ## The draft -/

theorem draft_eq_ok : draft p = .ok q ↔ ∃ name, p.name? = some name ∧ q = p.sibling (name ++ ".tmp") := by
  unfold draft
  cases p.name? <;> simp [eq_comm]

/-- The last step of a way leads up, or to a name in the directory. -/
theorem walk_last {mid loc : Location} {part : String} (h : d.walk mid [part] = .ok (some loc)) :
    part = ".." ∧ loc = mid.dropLast ∨ loc = mid ++ [part] := by
  obtain ⟨-, ⟨hup, -, hend⟩ | ⟨-, -, hend⟩⟩ := Disk.walk_cons.1 h
  · exact .inl ⟨hup, by simpa [Disk.walk] using hend.symm⟩
  · exact .inr (by simpa [Disk.walk] using hend.symm)

/-- The draft of a document never takes the place of its file. -/
theorem leads_draft_ne (hdraft : draft p = .ok q) {loc loc' : Location} (hp : d.Leads p loc) (hq : d.Leads q loc') :
    loc ≠ loc' := by
  obtain ⟨name, hname, rfl⟩ := draft_eq_ok.1 hdraft
  have hparts : p.parts = p.parts.dropLast ++ [name] := (List.dropLast_append_getLast? name hname).symm
  obtain ⟨-, -, -, hwalk⟩ := Disk.leads_iff.1 hp
  obtain ⟨-, -, -, hwalk'⟩ := Disk.leads_iff.1 hq
  rw [hparts] at hwalk
  obtain ⟨mid, hmid, hlast⟩ := Disk.walk_append.1 hwalk
  obtain ⟨mid', hmid', hlast'⟩ := Disk.walk_append.1 hwalk'
  obtain rfl : mid = mid' := by simpa using hmid.symm.trans hmid'
  have hlength : (name ++ ".tmp").length = name.length + 4 := by
    rw [String.length_append]
    rfl
  rcases walk_last hlast' with ⟨hup, -⟩ | rfl
  · have hdots : "..".length = 2 := rfl
    rw [hup] at hlength
    omega
  · intro heq
    rcases walk_last hlast with ⟨-, rfl⟩ | rfl
    · have := congrArg List.length heq
      simp only [List.length_dropLast, List.length_append, List.length_singleton] at this
      omega
    · have hnames : name = name ++ ".tmp" := by simpa using heq
      rw [← hnames] at hlength
      omega

/-- The place of the draft of a document. -/
def IsDraft (d : Disk) (p : Path) (loc : Location) : Prop := ∃ q, draft p = .ok q ∧ d.Leads q loc

/-- Where the path of a document leads its draft is not. -/
theorem not_isDraft {loc : Location} (hp : d.Leads p loc) : ¬IsDraft d p loc := by
  rintro ⟨q, hdraft, hq⟩
  exact leads_draft_ne hdraft hp hq rfl

/-! ## What is left of a disk -/

/-- After an attempt that failed no file is changed but the draft, and the document is what it was. -/
structure Untouched (d d' : Disk) (p : Path) : Prop where
  others : Keeps d d' (IsDraft d' p)
  file : ∀ loc, d'.Leads p loc → d'.file? loc = d.file? loc
  contents : ∀ loc, d.Leads p loc → d'.readBytes p = d.readBytes p

/-- After an attempt that did not fail the whole new text is in the file, the draft is gone, and no other file is
changed. -/
structure Replaced (d d' : Disk) (p : Path) (text : String) : Prop where
  contents : d'.readBytes p = .ok text.toUTF8
  draft : ∃ q, draft p = .ok q ∧ d'.exists q = .ok false
  others : Keeps d d' fun loc => d'.Leads p loc ∨ IsDraft d' p loc

/-- An attempt to replace a document by a new text. -/
inductive Attempt (d : Disk) (p : Path) (text : String) : Except Fault Unit × Disk → Prop
  | failed {f : Fault} {d' : Disk} : Untouched d d' p → Attempt d p text (.error f, d')
  | done {d' : Disk} : Replaced d d' p text → Attempt d p text (.ok (), d')

/-- Where nothing is changed but the draft the document is what it was. -/
theorem untouched_of_keeps (h : Keeps d d' (IsDraft d' p)) : Untouched d d' p :=
  ⟨h, fun loc hp => h.files loc (not_isDraft hp),
    fun _ hp => h.readBytes hp (not_isDraft (hp.mono h.directories))⟩

/-- A draft that could not be moved is all that is left of a save. -/
theorem keeps_draft {source : Location} (hdraft : draft p = .ok q) (hsource : d.writable q = .ok source)
    (bytes : ByteArray) : Keeps d (d.put source (.file bytes)) (IsDraft (d.put source (.file bytes)) p) :=
  Disk.keeps_put bytes (Disk.writable_eq_ok hsource).2
    ⟨q, hdraft, Disk.leads_of_writable (Disk.readBytes_put bytes hsource).1⟩

/-- A draft that was moved is gone, and the file holds what it held. -/
theorem Slot.replaces {source target : Location} (h : Slot d p q source target) (text : String) :
    Replaced d (d.replaced source target text.toUTF8) p text := by
  have hafter := h.replaced text.toUTF8
  have hsource := Disk.ne_nil_of_not_directory (Disk.writable_eq_ok h.source).2
  have htarget := Disk.ne_nil_of_not_directory (Disk.writable_eq_ok h.target).2
  have hne : target ≠ source :=
    leads_draft_ne h.draft (Disk.leads_of_writable h.target) (Disk.leads_of_writable h.source)
  have hdistinct : (Assoc.keys (d.put source (.file text.toUTF8)).entries).Nodup :=
    Assoc.nodup_keys_put _ _ h.distinct
  have hfile : ∀ loc, (d.replaced source target text.toUTF8).file? loc =
      if target = loc then some text.toUTF8 else if source = loc then none else d.file? loc := by
    intro loc
    rw [Disk.replaced, Disk.file?_put htarget]
    split
    · rfl
    · rw [Disk.file?_erase hdistinct hsource, Disk.file?_put hsource]
      split <;> rfl
  refine ⟨?_, ⟨q, h.draft, ?_⟩, fun loc hloc => ?_, fun loc hdir => ?_⟩
  · rw [Disk.readBytes_of_leads (Disk.leads_of_writable hafter.target), hfile, if_pos rfl]
    rfl
  · have hgone : Disk.entryAt? (d.replaced source target text.toUTF8) source = none := by
      rw [Disk.replaced, Disk.entryAt?_put_of_ne hne, Disk.entryAt?_erase hdistinct hsource, if_pos rfl]
    rw [Disk.exists_of_writable hafter.source, hgone]
    rfl
  · obtain ⟨hp, hq⟩ := not_or.1 hloc
    have hp' : target ≠ loc := by
      rintro rfl
      exact hp (Disk.leads_of_writable hafter.target)
    have hq' : source ≠ loc := by
      rintro rfl
      exact hq ⟨q, h.draft, Disk.leads_of_writable hafter.source⟩
    rw [hfile, if_neg hp', if_neg hq']
  · rw [Disk.sameDirectories_replaced h.distinct _ (Disk.writable_eq_ok h.source).2 (Disk.writable_eq_ok h.target).2]
    exact hdir

/-! ## Saving -/

/-- What was done before the directories were there is done after them. -/
theorem Replaced.after {d₁ : Disk} {text : String} (hmade : ∀ out, Keeps d d₁ out) (h : Replaced d₁ d' p text) :
    Replaced d d' p text :=
  ⟨h.contents, h.draft, (hmade _).trans h.others⟩

/-- A save replaces the document whole or leaves every file but the draft as it was. -/
theorem save_attempt [Host] (hd : (Assoc.keys d.entries).Nodup) (v : Json) (sorted : Bool) :
    Attempt d p (kept v sorted).indented (save d p v sorted) := by
  have hmade : ∀ out, Keeps d (d.makeDirectories p.parent).2 out := Disk.keeps_makeDirectories d p.parent
  have hdistinct := Disk.nodup_makeDirectories (p := p.parent) hd
  unfold save Disk.withParent
  rcases hdirectories : d.makeDirectories p.parent with ⟨f | _, d₁⟩
  · rw [hdirectories] at hmade
    exact .failed (untouched_of_keeps (hmade _))
  rw [hdirectories] at hmade hdistinct
  dsimp only
  rcases hdraft : draft p with f | q
  · exact .failed (untouched_of_keeps (hmade _))
  dsimp only
  rw [text_eq]
  cases hrefusal : (kept v sorted).refusal? 0 with
  | some f =>
    rw [Json.encode_of_some hrefusal]
    exact .failed (untouched_of_keeps (hmade _))
  | none =>
    rw [Json.encode_of_none hrefusal, Except.bind]
    rcases hsource : d₁.writable q with f | source
    · simp only [Disk.writeText, hsource, Except.map]
      exact .failed (untouched_of_keeps (hmade _))
    simp only [Disk.writeText, hsource, Except.map]
    rcases htarget : d₁.writable p with f | target
    · rw [Disk.rename_put_error _ hsource htarget]
      exact .failed (untouched_of_keeps ((hmade _).trans (keeps_draft hdraft hsource _)))
    · rw [Disk.rename_put _ hsource htarget]
      have hslot : Slot d₁ p q source target :=
        ⟨hdistinct, Disk.makeDirectories_again hdirectories fun _ => rfl, hdraft, hsource, htarget⟩
      exact .done ((hslot.replaces _).after hmade)

end Document

namespace Storage

open Document (Attempt Untouched Replaced)

variable {d : Disk} {p : Path}

/-- A change of one key of a store in a file: it fails and leaves the file as it was, it has nothing to do, or the file
holds all entries with the change. -/
inductive Changes [Host] (d : Disk) (p : Path) (key : String) (value : Json) : Except Fault Unit × Disk → Prop
  | failed {f : Fault} {d' : Disk} : Untouched d d' p → Changes d p key value (.error f, d')
  | idle {entries : List (String × Json)} : (loadEntries d p).1 = .ok entries → edit key value entries = none →
      Changes d p key value (.ok (), d)
  | done {entries entries' : List (String × Json)} {d' : Disk} : (loadEntries d p).1 = .ok entries →
      edit key value entries = some entries' → Replaced d d' p (Json.obj entries').indented →
      Changes d p key value (.ok (), d')

/-- Giving a key a value is such a change. -/
theorem update_changes [Host] (hd : (Assoc.keys d.entries).Nodup) (key : String) (value : Json) :
    ∃ r d' notices, update ⟨.file p, d⟩ key value = (r, ⟨.file p, d'⟩, notices) ∧
      Changes d p key value (r, d') := by
  rcases hload : loadEntries d p with ⟨f | entries, notices⟩
  · exact ⟨.error f, d, notices, by simp [update, hload],
      .failed (Document.untouched_of_keeps (Disk.keeps_refl d _))⟩
  have hentries : (loadEntries d p).1 = .ok entries := by rw [hload]
  cases hedit : edit key value entries with
  | none => exact ⟨.ok (), d, notices, by simp [update, hload, hedit], .idle hentries hedit⟩
  | some entries' =>
    have hattempt := Document.save_attempt (p := p) hd (.obj entries') false
    refine ⟨(Document.save d p (.obj entries') false).1, (Document.save d p (.obj entries') false).2, notices,
      by simp [update, hload, hedit], ?_⟩
    rcases hsave : Document.save d p (.obj entries') false with ⟨r, d'⟩
    rw [hsave] at hattempt
    cases hattempt with
    | failed h => exact .failed h
    | done h => exact .done hentries hedit h

/-- A disk with a directory in the place of a document, and another file. -/
def blocked : Disk := ⟨[(["s.json"], .directory), (["a.txt"], .file "kept".toUTF8)]⟩

/-- The path of the document. -/
def blockedPath : Path := ⟨0, ["s.json"]⟩

section

attribute [local instance] Host.sample

end

end Storage

end ChatRelay
