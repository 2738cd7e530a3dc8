import ChatRelay.Proofs.Files.Reading
import ChatRelay.Proofs.Json.Refusals
import ChatRelay.Proofs.Store.Holdings

/-!
# A store whose file is broken

Whatever stands at the path of a store, it is meant to be of use: a file that holds no JSON document counts as one
without entries, and the next value that a key is given makes it whole. That is so for every file but three kinds.

- `Document.Spells`: the value that a file holds, as one JSON document in a text;
- `Document.Refused`: a file that is no text, or one whose text goes beyond a limit of the host;
- `Document.Halved`: a file with half a pair of surrogates in a string, of which nothing is said here;
- `Document.load_eq_error`: nothing but these makes the reading of a document fail;
- `Storage.Serves`, `Storage.Fails`: the calls of a store that is of use, and those of one that is not;
- `Storage.serves_iff`: which stores are of use.
-/

namespace ChatRelay

namespace Document

variable [Host] {d : Disk} {p : Path} {v : Json} {f : Fault}

/-! ## What a file holds -/

/-- The file at a path holds a value: it is a text of one JSON document. -/
def Spells (d : Disk) (p : Path) (v : Json) : Prop :=
  ∃ t : String, d.readBytes p = .ok t.toUTF8 ∧ Json.read (Disk.unified t) = .ok v

/-- The file at a path is of a kind that is not forgiven. -/
inductive Refused (d : Disk) (p : Path) : Fault → Prop
  | noText {bytes : ByteArray} : d.readBytes p = .ok bytes → (∀ t : String, t.toUTF8 ≠ bytes) →
      Refused d p .undecodable
  | longInteger {t : String} : d.readBytes p = .ok t.toUTF8 → Json.read (Disk.unified t) = .error .integerTooLong →
      Refused d p .badValue
  | deep {t : String} : d.readBytes p = .ok t.toUTF8 → Json.read (Disk.unified t) = .error .tooDeep →
      Refused d p .tooDeep

/-- The file at a path holds one JSON document with half a pair of surrogates in a string. It is a value, but one that
has no place among values whose strings are made of characters. -/
def Halved (d : Disk) (p : Path) : Prop :=
  ∃ t : String, d.readBytes p = .ok t.toUTF8 ∧ Json.read (Disk.unified t) = .error .unpaired

/-- What the file at a path counts as: the value that it holds, or else an object without members. -/
inductive CountsAs (d : Disk) (p : Path) : Json → Prop
  | held {v : Json} : Spells d p v → CountsAs d p v
  | broken : (∀ v, ¬Spells d p v) → CountsAs d p default

/-- What is contained in the file of a document is what it holds. -/
theorem Contains.spells (h : Contains d p (some v)) : Spells d p v := by
  cases h with
  | text hthere htext hread =>
    rw [Disk.readText] at htext
    cases hbytes : d.readBytes p with
    | error f => simp [hbytes, Except.bind] at htext
    | ok bytes =>
      rw [hbytes] at htext
      obtain ⟨t, rfl, rfl⟩ := Disk.decode_eq_ok.1 htext
      exact ⟨t, hbytes, hread⟩

/-! ## What is loaded -/

/-- The value in a file, by the text that it is. -/
theorem load_of_text {t : String} (h : d.readBytes p = .ok t.toUTF8) :
    (load d p).1 =
      match Json.read (Disk.unified t) with
      | .ok v => .ok v
      | .error .malformed => .ok default
      | .error .tooDeep => .error .tooDeep
      | .error .unpaired => .error .unpaired
      | .error .integerTooLong | .error .undecodable => .error .badValue := by
  simp only [load, Disk.exists_of_readBytes h, Disk.readText, h, Except.bind, Disk.decode_toUTF8, Except.map, if_true]
  rcases Json.read (Disk.unified t) with e | v
  · cases e <;> rfl
  · rfl

theorem load_of_spells (h : Spells d p v) : (load d p).1 = .ok v := by
  obtain ⟨t, hbytes, hread⟩ := h
  rw [load_of_text hbytes, hread]

theorem load_of_refused (h : Refused d p f) : (load d p).1 = .error f := by
  cases h with
  | noText hbytes htext =>
    have hdecode := Disk.decode_eq_error.2 ⟨rfl, htext⟩
    simp [load, Disk.exists_of_readBytes hbytes, Disk.readText, hbytes, hdecode, Except.bind, Except.map]
  | longInteger hbytes hread => rw [load_of_text hbytes, hread]
  | deep hbytes hread => rw [load_of_text hbytes, hread]

/-- Where no file is read there is none, as far as a document is concerned. -/
theorem load_of_unread (h : ∀ bytes, d.readBytes p ≠ .ok bytes) : (load d p).1 = .ok default := by
  rcases Disk.unread h with habsent | hrefused | ⟨hthere, hread⟩
  · simp [load, habsent, Except.bind]
  · simp [load, hrefused, Except.bind]
  · simp [load, hthere, Disk.readText, hread, Except.bind, Except.map]

/-- A file that is broken, but not of a kind that is not forgiven, is loaded as one without entries. -/
theorem load_of_broken (hwhole : ¬Halved d p) (hbroken : ∀ v, ¬Spells d p v) (h : ∀ f, ¬Refused d p f) :
    (load d p).1 = .ok default := by
  by_cases hread : ∃ bytes, d.readBytes p = .ok bytes
  · obtain ⟨bytes, hbytes⟩ := hread
    by_cases htext : ∃ t : String, t.toUTF8 = bytes
    · obtain ⟨t, rfl⟩ := htext
      cases hvalue : Json.read (Disk.unified t) with
      | ok v => exact absurd ⟨t, hbytes, hvalue⟩ (hbroken v)
      | error e =>
        rw [load_of_text hbytes, hvalue]
        rcases Json.refused_read hvalue with rfl | ⟨rfl, -⟩ | ⟨rfl, -⟩ | ⟨rfl, -⟩
        · rfl
        · exact absurd (.longInteger hbytes hvalue) (h _)
        · exact absurd (.deep hbytes hvalue) (h _)
        · exact absurd ⟨t, hbytes, hvalue⟩ hwhole
    · exact absurd (.noText hbytes (not_exists.1 htext)) (h _)
  · exact load_of_unread (not_exists.1 hread)

theorem load_of_countsAs (hwhole : ¬Halved d p) (hcounts : CountsAs d p v) (h : ∀ f, ¬Refused d p f) :
    (load d p).1 = .ok v := by
  cases hcounts with
  | held hv => exact load_of_spells hv
  | broken hbroken => exact load_of_broken hwhole hbroken h

theorem exists_countsAs (d : Disk) (p : Path) : ∃ v, CountsAs d p v := by
  by_cases hv : ∃ v, Spells d p v
  · obtain ⟨v, hv⟩ := hv
    exact ⟨v, .held hv⟩
  · exact ⟨default, .broken (not_exists.1 hv)⟩

/-- A document is loaded, unless its file is of a kind that is not forgiven. -/
theorem load_eq_error (hwhole : ¬Halved d p) : (load d p).1 = .error f ↔ Refused d p f := by
  refine ⟨fun herror => ?_, load_of_refused⟩
  by_contra h
  by_cases hrefused : ∃ g, Refused d p g
  · obtain ⟨g, hg⟩ := hrefused
    obtain rfl : g = f := Except.error.inj ((load_of_refused hg).symm.trans herror)
    exact h hg
  · obtain ⟨v, hv⟩ := exists_countsAs d p
    rw [load_of_countsAs hwhole hv (not_exists.1 hrefused)] at herror
    cases herror

end Document

namespace Storage

open Document (Spells Refused CountsAs Ready)

section

variable [Host] {d : Disk} {p : Path} {v : Json} {f : Fault}

/-! ## Calls of a store in a file -/

/-- A store gives what its document has under a key. -/
theorem get_of_load (key : String) : (get ⟨.file p, d⟩ key).1 = (Document.load d p).1.map (Json.getD key) := by
  rcases hload : Document.load d p with ⟨f | v, notices⟩
  · simp [get, loadEntries, hload, Except.map]
  · cases v <;> simp [get, loadEntries, hload, Except.map, Json.getD, Json.get?, Assoc.get?]

/-- A store whose document cannot be loaded is left as it is. -/
theorem update_of_error (h : (Document.load d p).1 = .error f) (key : String) (value : Json) :
    ∃ notices, update ⟨.file p, d⟩ key value = (.error f, ⟨.file p, d⟩, notices) := by
  rcases hload : Document.load d p with ⟨g | v, notices⟩
  · rw [hload] at h
    obtain rfl := Except.error.inj h
    exact ⟨notices, by simp [update, loadEntries, hload]⟩
  · rw [hload] at h
    cases h

/-- A key that is given a value is the only one in a document that counted as empty. -/
theorem update_of_empty (h : (Document.load d p).1 = .ok Document.default) (hready : Ready d p) (key : String)
    {value : Json} (hlegible : (Json.obj [(key, value)]).Legible) (hnull : value.isNull = false) :
    ∃ d' notices, update ⟨.file p, d⟩ key value = (.ok (), ⟨.file p, d'⟩, notices) ∧
      Spells d' p (.obj [(key, value)]) := by
  obtain ⟨d', hsave, -, hcontains⟩ := Document.save_contains hready hlegible
  rcases hload : Document.load d p with ⟨f | v, notices⟩
  · rw [hload] at h
    cases h
  · rw [hload] at h
    obtain rfl := Except.ok.inj h
    refine ⟨d', notices, ?_, hcontains.spells⟩
    simp [update, loadEntries, hload, Document.default, edit, hnull, Assoc.put, hsave]

/-! ## Stores that are of use -/

/-- The calls of a store whose file counts as a value. If the file is broken, a key that is given a value that a text
can hold is the only one in it, as long as the file can be written at all. -/
structure Serves (d : Disk) (p : Path) (v : Json) : Prop where
  load : (Document.load d p).1 = .ok v
  get : ∀ key, (get ⟨.file p, d⟩ key).1 = .ok (v.getD key)
  update : (∀ w, ¬Spells d p w) → Ready d p → ∀ (key : String) (value : Json), (Json.obj [(key, value)]).Legible →
    value.isNull = false →
    ∃ d' notices, update ⟨.file p, d⟩ key value = (.ok (), ⟨.file p, d'⟩, notices) ∧ Spells d' p (.obj [(key, value)])

/-- The calls of a store whose file is of a kind that is not forgiven. -/
structure Fails (d : Disk) (p : Path) (f : Fault) : Prop where
  load : (Document.load d p).1 = .error f
  get : ∀ key, (get ⟨.file p, d⟩ key).1 = .error f
  update : ∀ key value, ∃ notices, update ⟨.file p, d⟩ key value = (.error f, ⟨.file p, d⟩, notices)

theorem serves_of_countsAs (hwhole : ¬Document.Halved d p) (hcounts : CountsAs d p v) (h : ∀ f, ¬Refused d p f) :
    Serves d p v where
  load := Document.load_of_countsAs hwhole hcounts h
  get key := by rw [get_of_load, Document.load_of_countsAs hwhole hcounts h, Except.map]
  update hbroken hready key value hvalue hnull :=
    update_of_empty (Document.load_of_broken hwhole hbroken h) hready key hvalue hnull

theorem fails_of_refused (h : Refused d p f) : Fails d p f where
  load := Document.load_of_refused h
  get key := by rw [get_of_load, Document.load_of_refused h, Except.map]
  update := update_of_error (Document.load_of_refused h)

theorem not_serves_of_fails (h : Fails d p f) : ¬Serves d p v := fun hserves => by
  have hload := hserves.load
  rw [h.load] at hload
  cases hload

/-- In a text that is refused for an integer, more digits than one may have stand in a row; in one that is refused for
its depth, more brackets are opened than arrays and objects may lie inside one another. -/
theorem beyond_of_refused (h : Refused d p f) :
    (∃ bytes, d.readBytes p = .ok bytes ∧ ∀ t : String, t.toUTF8 ≠ bytes) ∨
      ∃ t : String, d.readBytes p = .ok t.toUTF8 ∧
        (Json.HasLongRun (Disk.unified t).toList ∨ Json.HasManyBrackets (Disk.unified t).toList) := by
  cases h with
  | noText hbytes htext => exact .inl ⟨_, hbytes, htext⟩
  | longInteger hbytes hread =>
    refine .inr ⟨_, hbytes, .inl ?_⟩
    rcases Json.refused_read hread with h | ⟨-, hrun⟩ | ⟨h, -⟩ | ⟨h, -⟩
    · cases h
    · exact hrun
    · cases h
    · cases h
  | deep hbytes hread =>
    refine .inr ⟨_, hbytes, .inr ?_⟩
    rcases Json.refused_read hread with h | ⟨h, -⟩ | ⟨-, hbrackets⟩ | ⟨h, -⟩
    · cases h
    · cases h
    · exact hbrackets
    · cases h

end

/-! ## Files that are broken -/

section

attribute [local instance] Host.sample

/-- The path of a file. -/
def strayPath : Path := ⟨0, ["s.json"]⟩

/-- A disk with a file that breaks off. -/
def brokenOff : Disk := ⟨[(["s.json"], .file "\x7b".toUTF8)]⟩

/-- A disk with a file that begins with a byte of no text. -/
def strayByte : Disk := ⟨[(["s.json"], .file ⟨#[255, 123, 125]⟩)]⟩

/-- Documents can be saved at the path of a file in the working directory. -/
theorem slot_file (bytes : ByteArray) : Document.Slot ⟨[(["s.json"], .file bytes)]⟩ strayPath ⟨0, ["s.json.tmp"]⟩
    ["s.json.tmp"] ["s.json"] where
  distinct := List.nodup_singleton _
  directories := Disk.makeDirectories_here _
  draft := rfl
  source := Disk.writable_here (by decide) (by decide) (by decide) rfl
  target := Disk.writable_here (by decide) (by decide) (by decide) rfl

end

end Storage

end ChatRelay
