import ChatRelay.Proofs.Store.Document
import ChatRelay.Store.KeyValue

/-!
# What a store holds

A store in memory and a store in a file are told apart by nothing but the values that they take.

- `Storage.Holds`: the entries that a store holds, in memory or in its file;
- `Storage.Takes`: the values that a store takes inside some objects: all of them in memory, those that a text can
  hold in a file;
- `Storage.get_of_holds`, `Storage.update_of_holds`: the calls of a store in terms of its entries;
- `Storage.get_of_update`: a value that was taken is there.
-/

namespace ChatRelay.Storage

variable [Host]

/-- The entries that a store holds. A store in a file is one whose file can be written. -/
def Holds (s : Storage) (entries : List (String × Json)) : Prop :=
  match s.store with
  | .memory held => held = entries
  | .file p => Document.Ready s.disk p ∧ (loadEntries s.disk p).1 = .ok entries

/-- The values that a store takes inside as many arrays and objects as given. The entries are the members of one. -/
def Takes (s : Storage) (depth : Nat) (v : Json) : Prop :=
  match s.store with
  | .memory _ => True
  | .file _ => v.LegibleAt depth

/-! ## Entries of a file -/

section

variable {d : Disk} {p : Path} {key : String} {value : Json} {entries : List (String × Json)}

theorem legible_empty : (Json.obj []).Legible :=
  Json.legibleAt_obj_iff.2 ⟨Host.depthFault?_of_le (by decide), List.nodup_nil, by simp⟩

/-- A document that was loaded is legible. -/
theorem legible_load {v : Json} (h : (Document.load d p).1 = .ok v) : v.Legible := by
  unfold Document.load at h
  split at h
  · obtain rfl := Except.ok.inj h
    exact legible_empty
  · split at h
    · next hread =>
      obtain rfl := Except.ok.inj h
      exact Json.legible_iff.2 ⟨_, hread⟩
    · split at h
      · obtain rfl := Except.ok.inj h
        exact legible_empty
      · cases h
  · obtain rfl := Except.ok.inj h
    exact legible_empty
  · cases h

theorem legible_loadEntries (h : (loadEntries d p).1 = .ok entries) : (Json.obj entries).Legible := by
  unfold loadEntries at h
  split at h
  · next hload =>
    obtain rfl := Except.ok.inj h
    exact legible_load (d := d) (p := p) (by rw [hload])
  · obtain rfl := Except.ok.inj h
    exact legible_empty
  · cases h

theorem legible_put (hv : value.LegibleAt 1) (h : (Json.obj entries).Legible) :
    (Json.obj (Assoc.put key value entries)).Legible := by
  obtain ⟨hdepth, hkeys, hmembers⟩ := Json.legibleAt_obj_iff.1 h
  refine Json.legibleAt_obj_iff.2 ⟨hdepth, Assoc.nodup_keys_put _ _ hkeys, fun m hm => ?_⟩
  rcases Assoc.mem_put _ _ hm with rfl | hm
  · exact hv
  · exact hmembers m hm

theorem legible_erase (h : (Json.obj entries).Legible) : (Json.obj (Assoc.erase key entries)).Legible := by
  obtain ⟨hdepth, hkeys, hmembers⟩ := Json.legibleAt_obj_iff.1 h
  exact Json.legibleAt_obj_iff.2 ⟨hdepth, Assoc.nodup_keys_erase hkeys, fun m hm => hmembers m (Assoc.mem_erase hm)⟩

omit [Host] in
theorem distinct_put (hv : value.Distinct) (h : (Json.obj entries).Distinct) :
    (Json.obj (Assoc.put key value entries)).Distinct := by
  refine ⟨Assoc.nodup_keys_put _ _ h.1, Json.distinctMembers_iff.2 fun m hm => ?_⟩
  rcases Assoc.mem_put _ _ hm with rfl | hm
  · exact hv
  · exact Json.distinctMembers_iff.1 h.2 m hm

/-- Giving a key a value keeps entries legible. -/
theorem legible_edit (hv : value.LegibleAt 1) (h : (Json.obj entries).Legible) {entries' : List (String × Json)}
    (hedit : edit key value entries = some entries') : (Json.obj entries').Legible := by
  unfold edit at hedit
  split at hedit
  · split at hedit
    · obtain rfl := Option.some.inj hedit
      exact legible_erase h
    · cases hedit
  · obtain rfl := Option.some.inj hedit
    exact legible_put hv h

end

/-! ## Calls -/

section

variable {s : Storage} {entries : List (String × Json)}

/-- A store gives the value of a key. -/
theorem get_of_holds (h : s.Holds entries) (key : String) :
    (s.get key).1 = .ok ((Assoc.get? key entries).getD .null) := by
  obtain ⟨store, disk⟩ := s
  cases store with
  | memory held =>
    obtain rfl : held = entries := h
    rfl
  | file p =>
    obtain ⟨hready, hload⟩ : Document.Ready disk p ∧ (loadEntries disk p).1 = .ok entries := h
    rcases hpair : loadEntries disk p with ⟨r, notices⟩
    rw [hpair] at hload
    obtain rfl : r = .ok entries := hload
    simp [get, hpair]

/-- A store that takes a value holds it from then on. -/
theorem update_of_holds (h : s.Holds entries) (key : String) {value : Json} (hv : s.Takes 1 value) :
    ∃ s' notices, s.update key value = (.ok (), s', notices) ∧
      s'.Holds ((edit key value entries).getD entries) ∧ s'.Takes = s.Takes := by
  obtain ⟨store, disk⟩ := s
  cases store with
  | memory held =>
    obtain rfl : held = entries := h
    exact ⟨_, [], rfl, rfl, rfl⟩
  | file p =>
    obtain ⟨hready, hload⟩ : Document.Ready disk p ∧ (loadEntries disk p).1 = .ok entries := h
    have hlegible := legible_loadEntries hload
    rcases hpair : loadEntries disk p with ⟨r, notices⟩
    rw [hpair] at hload
    obtain rfl : r = .ok entries := hload
    rcases hedit : edit key value entries with _ | entries'
    · refine ⟨⟨.file p, disk⟩, notices, by simp [update, hpair, hedit], ⟨hready, ?_⟩, rfl⟩
      rw [hpair]
      rfl
    · obtain ⟨d', hsave, hready', hload'⟩ := Document.save_spec hready (legible_edit hv hlegible hedit)
      refine ⟨⟨.file p, d'⟩, notices, by simp [update, hpair, hedit, hsave], ⟨hready', ?_⟩, rfl⟩
      simp [loadEntries, hload']

/-- A value that a store took is the value of its key from then on. Nothing is asked of a store in a file but that the
update succeeded. -/
theorem get_of_update {s' : Storage} {notices : List Notice} {key : String} {value : Json}
    (hdisk : (Assoc.keys s.disk.entries).Nodup) (hv : value.Distinct) (hnull : value.isNull = false)
    (h : s.update key value = (.ok (), s', notices)) : (s'.get key).1 = .ok value := by
  have hedit (entries : List (String × Json)) : edit key value entries = some (Assoc.put key value entries) := by
    simp [edit, hnull]
  obtain ⟨store, disk⟩ := s
  cases store with
  | memory held =>
    obtain ⟨rfl, -⟩ : (⟨.memory (Assoc.put key value held), disk⟩ : Storage) = s' ∧ [] = notices := by
      simpa [update, hedit] using h
    simp [get]
  | file p =>
    rcases hpair : loadEntries disk p with ⟨f | entries, notices'⟩
    · simp [update, hpair] at h
    rcases hsave : Document.save disk p (.obj (Assoc.put key value entries)) false with ⟨r, d'⟩
    obtain ⟨rfl, rfl, -⟩ : r = .ok () ∧ (⟨.file p, d'⟩ : Storage) = s' ∧ notices' = notices := by
      simpa [update, hpair, hedit, hsave] using h
    -- What was written is legible: it was written, and no object in it has a key twice.
    have hold : (Json.obj entries).Legible := legible_loadEntries (by rw [hpair])
    have hnew : (Json.obj (Assoc.put key value entries)).Legible :=
      ⟨distinct_put hv hold.distinct, Document.within_of_save hsave⟩
    obtain ⟨d'', hsave', -, hload⟩ := Document.save_spec ⟨hdisk, _, _, hsave⟩ hnew
    obtain rfl : d'' = d' := congrArg Prod.snd (hsave'.symm.trans hsave)
    simp [get, loadEntries, hload]

end

end ChatRelay.Storage
