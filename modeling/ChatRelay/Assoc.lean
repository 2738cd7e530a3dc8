/-!
# Entries in insertion order

A keyed collection is a list of entries. Looking up finds the first entry of a key, writing keeps the place of a key
that is present and appends a new one, so the order of the entries is the order in which their keys came.

- `get?`, `contains`, `keys`: the views;
- `put`, `erase`: the changes, and `ofList`, the collection that writing the entries one after the other gives;
- `get?_put`, `get?_erase`: what is found after a change. Changes keep keys distinct (`nodup_keys_put`,
  `nodup_keys_erase`).
-/

namespace ChatRelay.Assoc

universe u

variable {κ : Type} [DecidableEq κ] {α : Type u}

/-- The value of a key. -/
def get? (key : κ) : List (κ × α) → Option α
  | [] => none
  | (k, v) :: rest => if k = key then some v else get? key rest

/-- Whether a key has a value. -/
def contains (key : κ) (entries : List (κ × α)) : Bool := (get? key entries).isSome

/-- The keys in order. -/
def keys (entries : List (κ × α)) : List κ := entries.map (·.1)

/-- Gives a key a value, in its old place or at the end. -/
def put (key : κ) (value : α) : List (κ × α) → List (κ × α)
  | [] => [(key, value)]
  | (k, v) :: rest => if k = key then (k, value) :: rest else (k, v) :: put key value rest

/-- Removes a key. -/
def erase (key : κ) : List (κ × α) → List (κ × α)
  | [] => []
  | (k, v) :: rest => if k = key then rest else (k, v) :: erase key rest

/-- The collection that results from writing entries one after the other: a repeated key keeps its first place and
its last value. -/
def ofList (entries : List (κ × α)) : List (κ × α) := entries.foldl (fun acc e => put e.1 e.2 acc) []

/-! ## Looking up after a change -/

variable (key key' : κ) (value : α) (entries : List (κ × α))

@[simp] theorem get?_nil : get? key ([] : List (κ × α)) = none := rfl

@[simp] theorem get?_cons (k : κ) :
    get? key ((k, value) :: entries) = if k = key then some value else get? key entries := rfl

/-- Writing a key changes the value of that key and no other. -/
theorem get?_put : get? key' (put key value entries) = if key = key' then some value else get? key' entries := by
  induction entries with
  | nil => rfl
  | cons e rest ih =>
    obtain ⟨k, v⟩ := e
    by_cases hk : k = key
    · subst hk
      by_cases hk' : k = key' <;> simp [put, hk']
    · by_cases hk' : k = key'
      · subst hk'
        simp [put, hk, Ne.symm hk]
      · simp [put, hk, hk', ih]

@[simp] theorem get?_put_self : get? key (put key value entries) = some value := by simp [get?_put]

/-- Of two values for a key the last one counts. -/
theorem put_put (value' : α) : put key value' (put key value entries) = put key value' entries := by
  induction entries with
  | nil => simp [put]
  | cons e rest ih =>
    obtain ⟨k, v⟩ := e
    by_cases hk : k = key <;> simp [put, hk, ih]

variable {key key'} in
theorem get?_put_of_ne (h : key ≠ key') : get? key' (put key value entries) = get? key' entries := by
  simp [get?_put, h]

variable {key entries} in
theorem mem_of_get? {value : α} (h : get? key entries = some value) : (key, value) ∈ entries := by
  induction entries with
  | nil => cases h
  | cons e rest ih =>
    obtain ⟨k, v⟩ := e
    rw [get?_cons] at h
    split at h
    · next hk =>
      obtain rfl := Option.some.inj h
      exact hk ▸ List.mem_cons_self
    · exact List.mem_cons_of_mem _ (ih h)

/-! ## Writing distinct keys -/

variable {key key'}

@[simp] theorem mem_keys_put {k : κ} : k ∈ keys (put key value entries) ↔ k = key ∨ k ∈ keys entries := by
  induction entries with
  | nil => simp [put, keys]
  | cons e rest ih =>
    obtain ⟨k', v⟩ := e
    by_cases hk : k' = key
    · simp [put, keys, hk]
    · simp only [keys] at ih
      simp only [put, hk, if_false, keys, List.map_cons, List.mem_cons, ih]
      exact or_left_comm

/-- A new key goes to the end. -/
theorem put_of_not_mem (h : key ∉ keys entries) : put key value entries = entries ++ [(key, value)] := by
  induction entries with
  | nil => rfl
  | cons e rest ih =>
    obtain ⟨k, v⟩ := e
    simp only [keys, List.map_cons, List.mem_cons, not_or] at h
    simp [put, Ne.symm h.1, ih h.2]

/-- An entry is found when no other has its key. -/
theorem get?_of_mem {entries : List (κ × α)} (h : (keys entries).Nodup) {e : κ × α} (he : e ∈ entries) :
    get? e.1 entries = some e.2 := by
  induction entries with
  | nil => exact absurd he List.not_mem_nil
  | cons e' rest ih =>
    obtain ⟨k, v⟩ := e'
    simp only [keys, List.map_cons, List.nodup_cons] at h
    rcases List.mem_cons.1 he with rfl | he
    · simp
    · have hne : k ≠ e.1 := fun heq => h.1 (heq ▸ List.mem_map_of_mem he)
      simpa [hne] using ih h.2 he

theorem nodup_keys_put (h : (keys entries).Nodup) : (keys (put key value entries)).Nodup := by
  induction entries with
  | nil => simp [put, keys]
  | cons e rest ih =>
    obtain ⟨k, v⟩ := e
    simp only [keys, List.map_cons, List.nodup_cons] at h
    by_cases hk : k = key
    · subst hk
      simpa only [put, if_true, keys, List.map_cons, List.nodup_cons] using h
    · have hmem : k ∉ keys (put key value rest) := fun hk' => ((mem_keys_put value rest).1 hk').elim hk h.1
      simp only [put, hk, if_false, keys, List.map_cons, List.nodup_cons]
      exact ⟨hmem, ih h.2⟩

theorem mem_put {e : κ × α} (h : e ∈ put key value entries) : e = (key, value) ∨ e ∈ entries := by
  induction entries with
  | nil => exact .inl (List.mem_singleton.1 h)
  | cons e' rest ih =>
    obtain ⟨k, v⟩ := e'
    simp only [put] at h
    split at h
    · next hk =>
      subst hk
      exact (List.mem_cons.1 h).imp_right (List.mem_cons_of_mem _)
    · rcases List.mem_cons.1 h with rfl | h
      · exact .inr List.mem_cons_self
      · exact (ih h).imp_right (List.mem_cons_of_mem _)

/-- Writing one entry after the other makes up no entries. -/
theorem mem_ofList {entries : List (κ × α)} {e : κ × α} (h : e ∈ ofList entries) : e ∈ entries := by
  suffices hfold : ∀ acc : List (κ × α), e ∈ entries.foldl (fun acc e => put e.1 e.2 acc) acc →
      e ∈ acc ∨ e ∈ entries from (hfold [] h).resolve_left List.not_mem_nil
  clear h
  induction entries with
  | nil => exact fun acc h => .inl h
  | cons e' rest ih =>
    intro acc h
    rcases ih _ h with h | h
    · rcases mem_put _ _ h with rfl | h
      · exact .inr List.mem_cons_self
      · exact .inl h
    · exact .inr (List.mem_cons_of_mem _ h)

/-- No key is there twice after writing one entry after the other. -/
theorem nodup_keys_ofList (entries : List (κ × α)) : (keys (ofList entries)).Nodup := by
  suffices h : ∀ acc : List (κ × α), (keys acc).Nodup →
      (keys (entries.foldl (fun acc e => put e.1 e.2 acc) acc)).Nodup from h [] List.nodup_nil
  induction entries with
  | nil => exact fun acc h => h
  | cons e rest ih => exact fun acc h => ih _ (nodup_keys_put _ _ h)

/-- Entries with distinct keys are written as they are. -/
theorem ofList_of_nodup {entries : List (κ × α)} (h : (keys entries).Nodup) : ofList entries = entries := by
  suffices hfold : ∀ acc : List (κ × α), (keys (acc ++ entries)).Nodup →
      entries.foldl (fun acc e => put e.1 e.2 acc) acc = acc ++ entries from hfold [] h
  clear h
  induction entries with
  | nil => simp
  | cons e rest ih =>
    intro acc hacc
    have hnew : e.1 ∉ keys acc := by
      simp only [keys, List.map_append, List.map_cons] at hacc
      intro hmem
      exact (List.nodup_append.1 hacc).2.2 e.1 hmem e.1 List.mem_cons_self rfl
    rw [List.foldl_cons, put_of_not_mem _ _ hnew, ih _ (by simpa using hacc)]
    simp

/-! ## Removing a key -/

theorem get?_eq_none {entries : List (κ × α)} (h : key ∉ keys entries) : get? key entries = none := by
  induction entries with
  | nil => rfl
  | cons e rest ih =>
    obtain ⟨k, v⟩ := e
    simp only [keys, List.map_cons, List.mem_cons, not_or] at h
    simp [Ne.symm h.1, ih h.2]

/-- Removing a key removes that key and no other. -/
theorem get?_erase (key' : κ) {entries : List (κ × α)} (h : (keys entries).Nodup) :
    get? key' (erase key entries) = if key = key' then none else get? key' entries := by
  induction entries with
  | nil => simp [erase]
  | cons e rest ih =>
    obtain ⟨k, v⟩ := e
    simp only [keys, List.map_cons, List.nodup_cons] at h
    by_cases hk : k = key
    · subst hk
      by_cases hk' : k = key'
      · subst hk'
        simpa [erase] using get?_eq_none h.1
      · simp [erase, hk']
    · by_cases hk' : k = key'
      · subst hk'
        simp [erase, hk, Ne.symm hk]
      · simp [erase, hk, hk', ih h.2]

theorem mem_erase {entries : List (κ × α)} {e : κ × α} (h : e ∈ erase key entries) : e ∈ entries := by
  induction entries with
  | nil => exact h
  | cons e' rest ih =>
    obtain ⟨k, v⟩ := e'
    simp only [erase] at h
    split at h
    · exact List.mem_cons_of_mem _ h
    · rcases List.mem_cons.1 h with rfl | h
      · exact List.mem_cons_self
      · exact List.mem_cons_of_mem _ (ih h)

theorem nodup_keys_erase {entries : List (κ × α)} (h : (keys entries).Nodup) :
    (keys (erase key entries)).Nodup := by
  induction entries with
  | nil => exact h
  | cons e rest ih =>
    obtain ⟨k, v⟩ := e
    simp only [keys, List.map_cons, List.nodup_cons] at h
    simp only [erase]
    split
    · exact h.2
    · refine List.nodup_cons.2 ⟨fun hmem => h.1 ?_, ih h.2⟩
      obtain ⟨e, he, hek⟩ := List.mem_map.1 hmem
      exact List.mem_map.2 ⟨e, mem_erase he, hek⟩

end ChatRelay.Assoc
