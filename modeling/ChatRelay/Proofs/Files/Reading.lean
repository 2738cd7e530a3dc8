import ChatRelay.Proofs.Store.Document

/-!
# Reading a file

- `Disk.unified`: a text as it is read from the bytes that spell it (`decode_eq_ok`); bytes that spell none are a fault
  (`decode_eq_error`);
- `Disk.exists_of_readBytes`, `Disk.unread`: what is known of a path when the bytes of its file were read, and when
  they were not.
-/

namespace ChatRelay.Disk

/-! ## Bytes -/

/-- A text as it is read: every carriage return in it, alone or before a line feed, is a line feed. -/
def unified (t : String) : String := String.ofList (Text.unifyNewlines t.toList)

theorem unified_eq_self {t : String} (h : '\r' ∉ t.toList) : unified t = t := by
  rw [unified, Document.unifyNewlines_eq_self h, String.ofList_toList]

theorem decode_toUTF8 (t : String) : decode t.toUTF8 = .ok (unified t) := by
  simp only [decode, Document.fromUTF8?_toUTF8, unified]

theorem toUTF8_of_fromUTF8? {bytes : ByteArray} {t : String} (h : String.fromUTF8? bytes = some t) :
    t.toUTF8 = bytes := by
  unfold String.fromUTF8? at h
  split at h
  · obtain rfl := Option.some.inj h
    rfl
  · cases h

/-- Two texts are spelled by the same bytes only if they are the same. -/
theorem toUTF8_inj {t u : String} (h : t.toUTF8 = u.toUTF8) : t = u := by
  have hread := congrArg String.fromUTF8? h
  rw [Document.fromUTF8?_toUTF8, Document.fromUTF8?_toUTF8] at hread
  exact Option.some.inj hread

theorem fromUTF8?_eq_none {bytes : ByteArray} : String.fromUTF8? bytes = none ↔ ∀ t : String, t.toUTF8 ≠ bytes := by
  constructor
  · rintro h t rfl
    rw [Document.fromUTF8?_toUTF8] at h
    cases h
  · intro h
    cases ht : String.fromUTF8? bytes with
    | none => rfl
    | some t => exact absurd (toUTF8_of_fromUTF8? ht) (h t)

/-- The bytes of a text are read as that text. -/
theorem decode_eq_ok {bytes : ByteArray} {s : String} :
    decode bytes = .ok s ↔ ∃ t : String, t.toUTF8 = bytes ∧ unified t = s := by
  constructor
  · intro h
    cases ht : String.fromUTF8? bytes with
    | none => simp [decode, ht] at h
    | some t =>
      obtain rfl := toUTF8_of_fromUTF8? ht
      rw [decode_toUTF8] at h
      exact ⟨t, rfl, Except.ok.inj h⟩
  · rintro ⟨t, rfl, rfl⟩
    exact decode_toUTF8 t

/-- Bytes of no text are a fault of their own. -/
theorem decode_eq_error {bytes : ByteArray} {f : Fault} :
    decode bytes = .error f ↔ f = .undecodable ∧ ∀ t : String, t.toUTF8 ≠ bytes := by
  rw [← fromUTF8?_eq_none]
  cases ht : String.fromUTF8? bytes <;> simp [decode, ht, eq_comm]

/-! ## Paths -/

section

variable {d : Disk} {path : Path} {f : Fault}

theorem walk_eq_error {from_ : Location} {parts : List String} (h : d.walk from_ parts = .error f) :
    f = .fileSystem := by
  induction parts generalizing from_ with
  | nil => cases h
  | cons part rest ih =>
    unfold walk at h
    split at h
    · split at h
      · split at h
        · cases h
        · exact ih h
      · split at h
        · exact (Except.error.inj h).symm
        · exact ih h
    · cases h

/-- Only a null character makes a path no path at all. -/
theorem locate_eq_error (hnul : path.hasNul = false) (h : d.locate path = .error f) : f = .fileSystem := by
  unfold locate at h
  rw [hnul, if_neg (by decide)] at h
  split at h
  · exact (Except.error.inj h).symm
  · split at h
    · exact walk_eq_error h
    · split at h
      · exact (Except.error.inj h).symm
      · cases h

theorem at?_eq_error (hnul : path.hasNul = false) (h : d.at? path = .error f) : f = .fileSystem := by
  unfold at? at h
  split at h
  · cases h
  · cases hloc : d.locate path with
    | error g =>
      rw [hloc] at h
      obtain rfl := Except.error.inj h
      exact locate_eq_error hnul hloc
    | ok loc =>
      rw [hloc] at h
      cases h

theorem readBytes_eq_ok {bytes : ByteArray} : d.readBytes path = .ok bytes ↔ d.at? path = .ok (some (.file bytes)) := by
  unfold readBytes
  split <;> simp_all

/-- A path with a null character leads to no file. -/
theorem hasNul_of_readBytes {bytes : ByteArray} (h : d.readBytes path = .ok bytes) : path.hasNul = false := by
  rw [readBytes_eq_ok] at h
  by_contra hnul
  unfold at? at h
  split at h
  · cases h
  · simp [locate, Bool.eq_true_of_not_eq_false hnul, Except.map] at h

/-- A file that is read is there. -/
theorem exists_of_readBytes {bytes : ByteArray} (h : d.readBytes path = .ok bytes) : d.exists path = .ok true := by
  simp [«exists», hasNul_of_readBytes h, readBytes_eq_ok.1 h, Except.map]

/-- Where no file is read there is nothing, or the file system refuses. -/
theorem unread (h : ∀ bytes, d.readBytes path ≠ .ok bytes) :
    d.exists path = .ok false ∨ d.exists path = .error .fileSystem ∨
      d.exists path = .ok true ∧ d.readBytes path = .error .fileSystem := by
  cases hnul : path.hasNul with
  | true => exact .inl (by simp [«exists», hnul])
  | false =>
    cases hat : d.at? path with
    | error g =>
      obtain rfl := at?_eq_error hnul hat
      exact .inr (.inl (by simp [«exists», hnul, hat, Except.map]))
    | ok found =>
      cases found with
      | none => exact .inl (by simp [«exists», hnul, hat, Except.map])
      | some entry =>
        cases entry with
        | file bytes => exact absurd (readBytes_eq_ok.2 hat) (h bytes)
        | directory => exact .inr (.inr (by simp [«exists», readBytes, hnul, hat, Except.map]))

end

end ChatRelay.Disk
