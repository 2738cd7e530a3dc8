import ChatRelay.Files.Path
import Mathlib.Data.List.Basic

/-!
# Paths in text

A path that was read from a text is one that its own text spells, and so is the path with its home directory put in.
Then there is no home directory left to put in.

- `Path.Normal`: what paths that were read from texts are like (`normal_ofString`, `Normal.expandHome`);
- `Path.ofString_toString`: such a path is spelled by its text;
- `Path.expandHome_again`: putting in the home directory a second time changes nothing.
-/

namespace ChatRelay.Path

/-! ## Texts between slashes -/

theorem splitSlashes_append {word : List Char} (h : '/' ∉ word) (part cs : List Char) :
    splitSlashes part (word ++ cs) = splitSlashes (word.reverse ++ part) cs := by
  induction word generalizing part with
  | nil => rfl
  | cons c word ih =>
    obtain ⟨hc, hword⟩ := not_or.1 (mt List.mem_cons.2 h)
    rw [List.cons_append, splitSlashes, if_neg (Ne.symm hc), ih hword, List.reverse_cons, List.append_assoc,
      List.singleton_append]

/-- There is no slash between slashes. -/
theorem not_mem_splitSlashes {part cs word : List Char} (hpart : '/' ∉ part) (h : word ∈ splitSlashes part cs) :
    '/' ∉ word := by
  induction cs generalizing part with
  | nil =>
    obtain rfl := List.mem_singleton.1 h
    simpa using hpart
  | cons c cs ih =>
    rw [splitSlashes] at h
    split at h
    · rcases List.mem_cons.1 h with rfl | h
      · simpa using hpart
      · exact ih List.not_mem_nil h
    · next hc => exact ih (by simp [Ne.symm hc, hpart]) h

/-- Words that are joined by slashes are the words between them. -/
theorem splitSlashes_intercalate {words : List (List Char)} (hne : words ≠ []) (h : ∀ word ∈ words, '/' ∉ word) :
    splitSlashes [] (['/'].intercalate words) = words := by
  induction words with
  | nil => exact absurd rfl hne
  | cons word words ih =>
    obtain ⟨hword, hwords⟩ := List.forall_mem_cons.1 h
    cases words with
    | nil =>
      have hsplit := splitSlashes_append hword [] []
      simpa [splitSlashes, List.intercalate] using hsplit
    | cons next rest =>
      have hjoin : ['/'].intercalate (word :: next :: rest) = word ++ '/' :: ['/'].intercalate (next :: rest) := by
        simp [List.intercalate]
      rw [hjoin, splitSlashes_append hword, splitSlashes, if_pos rfl, ih (by simp) hwords]
      simp

/-- Slashes in front stand between empty words. -/
theorem splitSlashes_replicate (k : Nat) (cs : List Char) :
    splitSlashes [] (List.replicate k '/' ++ cs) = List.replicate k [] ++ splitSlashes [] cs := by
  induction k with
  | zero => rfl
  | succ k ih =>
    rw [List.replicate_succ, List.cons_append, splitSlashes, if_pos rfl, ih, List.replicate_succ, List.cons_append,
      List.reverse_nil]

/-! ## Normal paths -/

/-- A path as it is read from a text: with at most two slashes in front, and parts that say something. -/
structure Normal (p : Path) : Prop where
  slashes : p.slashes ≤ 2
  parts : ∀ part ∈ p.parts, isPart part = true
  slashless : ∀ part ∈ p.parts, '/' ∉ part.toList

variable {p q : Path}

theorem normal_ofString (s : String) : Normal (ofString s) where
  slashes := by
    unfold ofString leadingSlashes
    dsimp only
    split <;> decide
  parts _ h := (List.mem_filter.1 h).2
  slashless part h := by
    obtain ⟨word, hword, rfl⟩ := List.mem_map.1 (List.mem_filter.1 h).1
    rw [String.toList_ofList]
    exact not_mem_splitSlashes List.not_mem_nil hword

theorem Normal.below (h : Normal p) {parts : List String} (hparts : ∀ part ∈ parts, isPart part = true)
    (hslashless : ∀ part ∈ parts, '/' ∉ part.toList) : Normal (p.below parts) where
  slashes := h.slashes
  parts part hpart := (List.mem_append.1 hpart).elim (h.parts part) (hparts part)
  slashless part hpart := (List.mem_append.1 hpart).elim (h.slashless part) (hslashless part)

theorem normal_ofHome (h : Home) : Normal (ofHome h) := normal_ofString _

/-- A text that begins with a slash spells a path that does. -/
theorem leadingSlashes_ne_zero {cs : List Char} (h : cs.head? = some '/') : leadingSlashes cs ≠ 0 := by
  obtain ⟨cs, rfl⟩ := List.head?_eq_some_iff.1 h
  unfold leadingSlashes
  split <;> simp_all

/-- Home directories are told from the root on. -/
theorem slashes_ofHome (h : Home) : (ofHome h).slashes ≠ 0 := by
  refine leadingSlashes_ne_zero ?_
  split
  · rfl
  · exact h.absolute

/-- What a text behind a `~` names is a home directory. -/
theorem ofHome_of_homeOf [Host] {name : String} (h : homeOf name = .ok p) : ∃ home, p = ofHome home := by
  unfold homeOf at h
  split at h
  · exact ⟨_, (Except.ok.inj h).symm⟩
  · split at h
    · cases h
    · split at h
      · exact ⟨_, (Except.ok.inj h).symm⟩
      · cases h

theorem expandHome_of_slashes [Host] (h : p.slashes ≠ 0) : p.expandHome = .ok p := by
  unfold expandHome
  split
  · next hnone _ => exact absurd hnone h
  · rfl

/-- A path with its home directory put in is one that had none, or one below the directory. -/
theorem expandHome_cases [Host] (h : p.expandHome = .ok q) :
    q = p ∨ ∃ (home : Home) (first : String) (rest : List String), p.parts = first :: rest ∧
      q = (ofHome home).below rest := by
  unfold expandHome at h
  split at h
  · next first rest _ hparts =>
    split at h
    · next name _ =>
      rcases hhome : homeOf (String.ofList name) with f | q' <;> rw [hhome] at h
      · cases h
      · obtain rfl := Except.ok.inj h
        obtain ⟨home, rfl⟩ := ofHome_of_homeOf hhome
        exact .inr ⟨home, first, rest, hparts, rfl⟩
    · exact .inl (Except.ok.inj h).symm
  · exact .inl (Except.ok.inj h).symm

theorem Normal.expandHome [Host] (hp : Normal p) (h : p.expandHome = .ok q) : Normal q := by
  rcases expandHome_cases h with rfl | ⟨home, first, rest, hparts, rfl⟩
  · exact hp
  · exact (normal_ofHome home).below (fun part hpart => hp.parts part (by simp [hparts, hpart]))
      fun part hpart => hp.slashless part (by simp [hparts, hpart])

/-- Where the home directory was put in there is none left to put in. -/
theorem expandHome_again [Host] (h : p.expandHome = .ok q) : q.expandHome = .ok q := by
  rcases expandHome_cases h with rfl | ⟨home, first, rest, -, rfl⟩
  · exact h
  · exact expandHome_of_slashes (slashes_ofHome home)

/-! ## Their texts -/

theorem leadingSlashes_replicate {k : Nat} (hk : k ≤ 2) {cs : List Char} (hcs : ∀ c ∈ cs.head?, c ≠ '/') :
    leadingSlashes (List.replicate k '/' ++ cs) = k := by
  have hnone : cs.takeWhile (· = '/') = [] := by
    cases cs with
    | nil => rfl
    | cons c cs => exact List.takeWhile_cons_of_neg (by simpa using hcs c rfl)
  have hlength : ((List.replicate k '/' ++ cs).takeWhile (· = '/')).length = k := by
    rw [List.takeWhile_append_of_pos (by simp), hnone]
    simp
  rw [leadingSlashes, hlength]
  match k, hk with
  | 0, _ => rfl
  | 1, _ => rfl
  | 2, _ => rfl

/-- Parts that say something are found between slashes, and nothing else is. -/
theorem filter_splitSlashes (h : Normal p) :
    ((splitSlashes [] (['/'].intercalate (p.parts.map String.toList))).map String.ofList).filter isPart = p.parts := by
  by_cases hnil : p.parts = []
  · rw [hnil]
    rfl
  · have hwords : ∀ word ∈ p.parts.map String.toList, '/' ∉ word := by simpa using h.slashless
    rw [splitSlashes_intercalate (by simpa using hnil) hwords, List.map_map]
    simpa [Function.comp_def] using h.parts

/-- Parts that say something do not begin with a slash. -/
theorem head?_intercalate (h : Normal p) :
    ∀ c ∈ (['/'].intercalate (p.parts.map String.toList)).head?, c ≠ '/' := by
  rcases hparts : p.parts with _ | ⟨part, rest⟩
  · simp
  · have hpart := h.parts part (by simp [hparts])
    have hslashless := h.slashless part (by simp [hparts])
    obtain ⟨c, cs, hcs⟩ : ∃ c cs, part.toList = c :: cs := List.exists_cons_of_ne_nil (by
      intro hempty
      rw [String.toList_eq_nil_iff] at hempty
      simp [hempty, isPart] at hpart)
    rw [hcs] at hslashless
    have hhead : (['/'].intercalate ((part :: rest).map String.toList)).head? = some c := by
      cases rest <;> simp [List.intercalate, hcs]
    rw [hhead]
    rintro c' hc' rfl
    simp [Option.mem_some_iff.1 hc'] at hslashless

/-- A normal path is spelled by its text. -/
theorem ofString_toString (h : Normal p) : ofString p.toString = p := by
  unfold Path.toString
  split
  · next hnothing =>
    obtain ⟨slashes, parts⟩ := p
    obtain ⟨rfl, rfl⟩ := hnothing
    rfl
  · have htext : (String.ofList (List.replicate p.slashes '/') ++ "/".intercalate p.parts).toList =
        List.replicate p.slashes '/' ++ ['/'].intercalate (p.parts.map String.toList) := by
      simp [String.toList_intercalate]
    have hempty : (List.replicate p.slashes "").filter isPart = [] := by simp [isPart]
    rw [ofString, htext, leadingSlashes_replicate h.slashes (head?_intercalate h), splitSlashes_replicate,
      List.map_append, List.filter_append, filter_splitSlashes h, List.map_replicate, String.ofList_nil, hempty,
      List.nil_append]

/-- No path has an empty text. -/
theorem toString_ne_empty (h : Normal p) : p.toString ≠ "" := by
  intro hempty
  have hread := ofString_toString h
  rw [hempty] at hread
  rw [← hread] at hempty
  exact absurd hempty (by decide)

end ChatRelay.Path
