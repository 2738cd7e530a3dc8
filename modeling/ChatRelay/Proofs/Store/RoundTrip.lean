import ChatRelay.Proofs.Json.Limits
import ChatRelay.Proofs.Json.Sorting
import ChatRelay.Proofs.Store.Atomicity

/-!
# What is saved is what is loaded

A value is written as a text of many lines, in its own order of keys or in the ascending one, and read back as bytes of
UTF-8 with all kinds of line ends taken as one. Nothing is lost on this way, and a value that was loaded is written with
the same bytes as before. Only a value beyond the limits of the host has no text: then the save fails, and the file is
what it was.

- `Document.Writable`: documents can be saved at a path, told without a save;
- `Document.Slot.save_kept`: a value is saved, loaded with the keys in their order, and saved again as it is there;
- `Document.save_beyond`: a value without a text is not saved;
- `Document.saved_is_loaded`: both, for every value and every path.
-/

namespace ChatRelay.Document

/-- Documents can be saved at a path: the directories on the way are there or can be made, and where the file and its
draft belong there is no directory. -/
structure Writable (d : Disk) (p : Path) : Prop where
  distinct : (Assoc.keys d.entries).Nodup
  places : ∃ d₁ q source target, d.makeDirectories p.parent = (.ok (), d₁) ∧ draft p = .ok q ∧
    d₁.writable q = .ok source ∧ d₁.writable p = .ok target

variable {d : Disk} {p q : Path} {v : Json}

theorem Slot.writable {source target : Location} (h : Slot d p q source target) : Writable d p :=
  ⟨h.distinct, d, q, source, target, h.directories, h.draft, h.source, h.target⟩

/-- The first save makes the directories. -/
theorem Writable.slot (h : Writable d p) :
    ∃ d₁ q source target, d.makeDirectories p.parent = (.ok (), d₁) ∧ Slot d₁ p q source target := by
  obtain ⟨d₁, q, source, target, hmade, hdraft, hsource, htarget⟩ := h.places
  have hdistinct := Disk.nodup_makeDirectories (p := p.parent) h.distinct
  rw [hmade] at hdistinct
  exact ⟨d₁, q, source, target, hmade, hdistinct, Disk.makeDirectories_again hmade fun _ => rfl, hdraft, hsource,
    htarget⟩

section

variable [Host]

/-! ## Values with a text -/

theorem kept_eq_none_iff (v : Json) (sorted : Bool) : (kept v sorted).refusal? 0 = none ↔ v.refusal? 0 = none := by
  cases sorted with
  | false => rfl
  | true => exact Json.refusal?_sortKeys_eq_none_iff v

theorem legible_kept (hv : v.Legible) (sorted : Bool) : (kept v sorted).Legible := by
  cases sorted with
  | false => exact hv
  | true => exact Json.legibleAt_sortKeys hv

omit [Host] in
/-- What a document holds is kept as it is. -/
theorem kept_kept (v : Json) (sorted : Bool) : kept (kept v sorted) sorted = kept v sorted := by
  cases sorted with
  | false => rfl
  | true => exact Json.sortKeys_sortKeys v

/-- A value is saved and loaded again, and what was loaded is saved with the same bytes. -/
theorem Slot.save_kept {d₁ : Disk} {source target : Location} (h : Slot d₁ p q source target)
    (hmade : d.makeDirectories p.parent = (.ok (), d₁)) (hv : v.Legible) (sorted : Bool) :
    ∃ d' bytes, Document.save d p v sorted = (.ok (), d') ∧ d'.readBytes p = .ok bytes ∧
      load d' p = (.ok (kept v sorted), []) ∧
      ∃ d'', Document.save d' p (kept v sorted) sorted = (.ok (), d'') ∧ d''.readBytes p = .ok bytes := by
  have hkept := legible_kept hv sorted
  have hagain : (kept (kept v sorted) sorted).refusal? 0 = none := (kept_kept v sorted).symm ▸ hkept.within
  have hafter := h.replaced (kept v sorted).indented.toUTF8
  refine ⟨_, _, h.save hmade hkept.within, h.readBytes_replaced _, (h.contains hkept).load, _,
    hafter.save hafter.directories hagain, ?_⟩
  rw [kept_kept]
  exact hafter.readBytes_replaced _

/-! ## Values without a text -/

/-- A value without a text is not saved, and the file is what it was. -/
theorem save_beyond (hp : Writable d p) {sorted : Bool} {f : Fault} (hv : (kept v sorted).refusal? 0 = some f) :
    ∃ d', save d p v sorted = (.error f, d') ∧ Untouched d d' p := by
  obtain ⟨d₁, q, -, -, hmade, hdraft, -, -⟩ := hp.places
  have hsave : save d p v sorted = (.error f, d₁) := by
    simp [save, Disk.withParent, hmade, hdraft, text_eq, Json.encode_of_some hv, Except.bind]
  have hattempt := save_attempt (p := p) hp.distinct v sorted
  rw [hsave] at hattempt
  cases hattempt with
  | failed huntouched => exact ⟨d₁, hsave, huntouched⟩

/-! ## Values -/

/-- **What is saved is what is loaded.** A value within the limits of the host is saved wherever documents can be saved.
It is loaded as it was, or with the keys of all its objects in ascending order, and what was loaded is saved again with
the same bytes. Any other value is refused for the limit that it passes, and the file is what it was. Where there are no
limits, no value is refused. -/
theorem saved_is_loaded (hp : Writable d p) (hv : v.Distinct) (sorted : Bool) :
    (v.Within → ∃ d' w bytes, save d p v sorted = (.ok (), d') ∧ d'.readBytes p = .ok bytes ∧
      load d' p = (.ok w, []) ∧ (if sorted then Json.Sorts v w else w = v) ∧
      ∃ d'', save d' p w sorted = (.ok (), d'') ∧ d''.readBytes p = .ok bytes) ∧
    (¬v.Within → ∃ f d', (f = .tooDeep ∨ ∃ limit ∈ Host.digitLimit, f = .integerTooLong limit) ∧
      save d p v sorted = (.error f, d') ∧ Untouched d d' p) ∧
    (Host.Boundless → v.Within) := by
  refine ⟨fun hwithin => ?_, fun hbeyond => ?_, fun h => Json.within_of_boundless h v⟩
  · obtain ⟨d₁, q, source, target, hmade, hslot⟩ := hp.slot
    obtain ⟨d', bytes, hsave, hbytes, hload, hagain⟩ := hslot.save_kept hmade ⟨hv, Json.within_iff.1 hwithin⟩ sorted
    refine ⟨d', kept v sorted, bytes, hsave, hbytes, hload, ?_, hagain⟩
    cases sorted with
    | false => rfl
    | true => exact Json.sorts_sortKeys hv
  · have hrefused : (kept v sorted).refusal? 0 ≠ none :=
      mt (kept_eq_none_iff v sorted).1 (mt Json.within_iff.2 hbeyond)
    obtain ⟨f, hf⟩ := Option.ne_none_iff_exists'.1 hrefused
    obtain ⟨d', hsave, huntouched⟩ := save_beyond hp hf
    exact ⟨f, d', Json.limit_of_refusal? hf, hsave, huntouched⟩

end

/-- A value with objects within objects, a text with a line end and a character beyond the basic plane, and a float that
is not finite. -/
def nested : Json :=
  .obj [("b", .arr [.int (-7), .obj [("z", .float .nan), ("Z", .str "a\r\n\x00\u2028😀")]]), ("a", .obj [])]

/-- The same with its keys in ascending order. -/
def nestedInOrder : Json :=
  .obj [("a", .obj []), ("b", .arr [.int (-7), .obj [("Z", .str "a\r\n\x00\u2028😀"), ("z", .float .nan)]])]

theorem sorts_nested : Json.Sorts nested nestedInOrder := by
  have hinner : Json.Sorts (.obj [("z", .float .nan), ("Z", .str "a\r\n\x00\u2028😀")])
      (.obj [("Z", .str "a\r\n\x00\u2028😀"), ("z", .float .nan)]) :=
    .obj (.cons (.float _) (.cons (.str _) .nil)) (.swap _ _ _) (by decide)
  have hitems : Json.SortsItems [.int (-7), .obj [("z", .float .nan), ("Z", .str "a\r\n\x00\u2028😀")]]
      [.int (-7), .obj [("Z", .str "a\r\n\x00\u2028😀"), ("z", .float .nan)]] :=
    .cons (.int _) (.cons hinner .nil)
  exact .obj (.cons (.arr hitems) (.cons (.obj .nil .nil .nil) .nil)) (.swap _ _ _) (by decide)

section

attribute [local instance] Host.sample

theorem nested_is_loaded :
    (∃ d', save .empty ⟨0, ["chat.json"]⟩ nested false = (.ok (), d') ∧
      load d' ⟨0, ["chat.json"]⟩ = (.ok nested, [])) ∧
    ∃ d', save .empty ⟨0, ["chat.json"]⟩ nested true = (.ok (), d') ∧
      load d' ⟨0, ["chat.json"]⟩ = (.ok nestedInOrder, []) := by
  have hdistinct : nested.Distinct := by
    simp [nested, Json.Distinct, Json.DistinctMembers, Json.DistinctItems, Assoc.keys]
  have hwithin : nested.Within := Json.within_iff.2 (by decide)
  constructor
  · obtain ⟨d', w, bytes, hsave, -, hload, rfl, -⟩ :=
      (saved_is_loaded slot_empty.writable hdistinct false).1 hwithin
    exact ⟨d', hsave, hload⟩
  · obtain ⟨d', w, bytes, hsave, -, hload, hsorts, -⟩ :=
      (saved_is_loaded slot_empty.writable hdistinct true).1 hwithin
    obtain rfl := hsorts.unique sorts_nested
    exact ⟨d', hsave, hload⟩

/-- An object with an integer of 4301 digits. -/
def endless : Json := .obj [("turns", .int ((10 ^ 4300 : Nat) : Int))]

/-- Under the usual limits it is refused at a path where documents can be saved. -/
theorem endless_refused :
    endless.Distinct ∧ Writable .empty ⟨0, ["chat.json"]⟩ ∧
      ∃ d', save .empty ⟨0, ["chat.json"]⟩ endless false = (.error (.integerTooLong 4300), d') := by
  have hdistinct : endless.Distinct := ⟨List.nodup_singleton _, trivial, trivial⟩
  have hrefusal : (kept endless false).refusal? 0 = some (.integerTooLong 4300) := by
    change endless.refusal? 0 = some (.integerTooLong 4300)
    rw [endless, Json.refusal?, Json.membersRefusal?, Json.refusal?_pow rfl le_rfl]
    rfl
  obtain ⟨d', hsave, -⟩ := save_beyond slot_empty.writable hrefusal
  exact ⟨hdistinct, slot_empty.writable, d', hsave⟩

end

end ChatRelay.Document
