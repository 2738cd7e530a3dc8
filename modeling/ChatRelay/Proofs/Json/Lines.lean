import ChatRelay.Proofs.Json.Numerals

/-!
# What is written is tame

What is written for a value holds no carriage return, so its lines are the same for every reader, and no escape in it
spells half a pair of surrogates.

- `Tame`: so it is with a piece of text, whatever the text goes on with;
- `tame_write`: neither numbers nor strings nor the blanks between them break it.
-/

namespace ChatRelay.Json

/-! ## Escapes -/

/-- The text goes on with an escape by number. -/
def Escaped (cs : List Char) : Prop := ∃ a b c d rest, cs = '\\' :: 'u' :: a :: b :: c :: d :: rest

theorem hexNumber?_hexDigits : ∀ n < 32, Text.hexNumber? (Text.hexDigits 4 n) = some n := by decide

theorem length_hexDigits : ∀ n < 32, (Text.hexDigits 4 n).length = 4 := by decide

/-- The escape of a control character by its number. -/
theorem exists_hexDigits {n : Nat} (hn : n < 32) :
    ∃ a b c d, Text.hexDigits 4 n = [a, b, c, d] ∧ Text.hexNumber? [a, b, c, d] = some n := by
  obtain ⟨a, b, c, d, hdigits⟩ : ∃ a b c d, Text.hexDigits 4 n = [a, b, c, d] := by
    have hlength := length_hexDigits n hn
    match Text.hexDigits 4 n, hlength with
    | [a, b, c, d], _ => exact ⟨a, b, c, d, rfl⟩
  exact ⟨a, b, c, d, hdigits, hdigits ▸ hexNumber?_hexDigits n hn⟩

/-- An escape by number spells no half of a pair when its number is none. -/
theorem spellsHalf_escape {a b c d : Char} {n : Nat} (rest : List Char) (hn : Text.hexNumber? [a, b, c, d] = some n)
    (hlow : n < 55296) : spellsHalf ('\\' :: 'u' :: a :: b :: c :: d :: rest) = spellsHalf rest := by
  have hhigh : Text.isHighSurrogate n = false := by simp [Text.isHighSurrogate]; omega
  have hhalf : isHalf (some n) = false := by simp [isHalf, hhigh, Text.isLowSurrogate]; omega
  by_cases hpair : Escaped rest
  · obtain ⟨e, f, g, h, rest, rfl⟩ := hpair
    simp [spellsHalf, hn, hhigh, hhalf]
  · rw [spellsHalf.eq_2 _ _ _ _ _ fun e f g h rest' heq => hpair ⟨e, f, g, h, rest', heq⟩, hn, hhalf, Bool.false_or]

/-! ## Tame pieces -/

/-- A piece of text without a carriage return, and without an escape that spells half a pair of surrogates. -/
structure Tame (cs : List Char) : Prop where
  noReturn : '\r' ∉ cs
  noHalf : ∀ rest, spellsHalf (cs ++ rest) = spellsHalf rest

theorem tame_nil : Tame [] := ⟨List.not_mem_nil, fun _ => rfl⟩

theorem Tame.append {cs ds : List Char} (hcs : Tame cs) (hds : Tame ds) : Tame (cs ++ ds) where
  noReturn h := (List.mem_append.1 h).elim hcs.noReturn hds.noReturn
  noHalf rest := by rw [List.append_assoc, hcs.noHalf, hds.noHalf]

/-- A character that is neither a carriage return nor a backslash may stand before a tame piece. -/
theorem Tame.cons {c : Char} {cs : List Char} (hcs : Tame cs) (h : c ≠ '\r' ∧ c ≠ '\\') : Tame (c :: cs) where
  noReturn hmem := (List.mem_cons.1 hmem).elim (fun he => h.1 he.symm) hcs.noReturn
  noHalf rest := by
    rw [List.cons_append, spellsHalf.eq_4 _ _ (fun _ _ _ _ _ _ _ _ _ he => absurd he h.2)
      (fun _ _ _ _ _ he => absurd he h.2) (fun _ _ he => absurd he h.2), hcs.noHalf]

theorem tame_of_forall {cs : List Char} (h : ∀ c ∈ cs, c ≠ '\r' ∧ c ≠ '\\') : Tame cs := by
  induction cs with
  | nil => exact tame_nil
  | cons c cs ih => exact (ih fun d hd => h d (List.mem_cons_of_mem _ hd)).cons (h c List.mem_cons_self)

theorem tame_of_all {cs : List Char} (h : (cs.all fun c => c ≠ '\r' ∧ c ≠ '\\') = true) : Tame cs :=
  tame_of_forall (by simpa using h)

/-! ## Numbers and strings -/

/-- A character of a number: a digit, a point, the letter before an exponent, or a sign. -/
def Numeral (c : Char) : Prop := isDigit c = true ∨ c ∈ ['.', 'e', '+', '-']

theorem numeral_of_mem_toDigits {n : Nat} {c : Char} (h : c ∈ Nat.toDigits 10 n) : Numeral c :=
  .inl (isDigit_of_mem_toDigits h)

theorem numeral_of_mem_replicate {n : Nat} {c : Char} (h : c ∈ List.replicate n '0') : Numeral c :=
  .inl (isDigit_of_mem_replicate h)

theorem numeral_mark {c : Char} (h : c ∈ ['.', 'e', '+', '-']) : Numeral c := .inr h

theorem numeral_renderExponent (e : Int) : ∀ c ∈ Binary64.renderExponent e, Numeral c := by
  have hdigits : ∀ c ∈ Nat.toDigits 10 e.natAbs, Numeral c := fun c => numeral_of_mem_toDigits
  have hzero : Numeral '0' := .inl rfl
  unfold Binary64.renderExponent
  dsimp only
  rw [List.forall_mem_cons, List.forall_mem_cons]
  refine ⟨numeral_mark (by decide), numeral_mark (by split <;> decide), ?_⟩
  split
  · exact List.forall_mem_cons.2 ⟨hzero, hdigits⟩
  · exact hdigits

theorem numeral_renderDecimal (digits : Nat) (exponent : Int) :
    ∀ c ∈ Binary64.renderDecimal digits exponent, Numeral c := by
  have hdigits : ∀ c ∈ Nat.toDigits 10 digits, Numeral c := fun c => numeral_of_mem_toDigits
  have hzero : Numeral '0' := .inl rfl
  have hpoint : Numeral '.' := numeral_mark (by decide)
  unfold Binary64.renderDecimal
  dsimp only
  split
  · split
    · simp only [List.forall_mem_append, List.forall_mem_cons]
      exact ⟨⟨hdigits, fun c => numeral_of_mem_replicate⟩, hpoint, hzero, nofun⟩
    · simp only [List.forall_mem_append, List.forall_mem_cons]
      exact ⟨fun c hc => hdigits c (List.mem_of_mem_take hc), hpoint,
        fun c hc => hdigits c (List.mem_of_mem_drop hc)⟩
  · split
    · simp only [List.forall_mem_append, List.forall_mem_cons]
      exact ⟨hzero, hpoint, fun c => numeral_of_mem_replicate, hdigits⟩
    · split
      · exact nofun
      · next hds =>
        rw [hds] at hdigits
        exact List.forall_mem_cons.2 ⟨hdigits _ List.mem_cons_self, numeral_renderExponent _⟩
      · next hds =>
        rw [hds, List.forall_mem_cons] at hdigits
        simp only [List.cons_append, List.forall_mem_append, List.forall_mem_cons]
        exact ⟨hdigits.1, hpoint, hdigits.2, numeral_renderExponent _⟩

/-- A character of a number is neither a carriage return nor a backslash. -/
theorem Numeral.mild {c : Char} (h : Numeral c) : c ≠ '\r' ∧ c ≠ '\\' := by
  constructor <;>
  · rintro rfl
    exact absurd h (by simp [Numeral, isDigit])

theorem tame_toDigits (n : Nat) : Tame (Nat.toDigits 10 n) :=
  tame_of_forall fun _ hc => (numeral_of_mem_toDigits hc).mild

theorem tame_writeInt (n : Int) : Tame (writeInt n) := by
  unfold writeInt
  split
  · exact (tame_toDigits _).cons (by decide)
  · exact tame_toDigits _

theorem tame_render (x : Binary64) : Tame (x.render spelling) := by
  cases x with
  | nan => exact tame_of_all (by decide)
  | infinite negative => cases negative <;> exact tame_of_all (by decide)
  | finite negative x =>
    have hmagnitude : Tame (if x.m = 0 then ['0', '.', '0'] else Binary64.renderDecimal x.shortest.1 x.shortest.2) := by
      split
      · exact tame_of_all (by decide)
      · exact tame_of_forall fun c hc => (numeral_renderDecimal _ _ c hc).mild
    cases negative with
    | false => exact hmagnitude
    | true => exact hmagnitude.cons (by decide)

/-- A backslash with a character that begins no number is tame. -/
theorem tame_escape {c : Char} (h : c ≠ '\r' ∧ c ≠ 'u') : Tame ['\\', c] where
  noReturn := by simpa using h.1.symm
  noHalf rest := spellsHalf.eq_3 _ _ (fun _ _ _ _ _ _ _ _ _ he => absurd he h.2) fun _ _ _ _ _ he => absurd he h.2

theorem not_mem_hexDigits : ∀ n < 32, '\r' ∉ Text.hexDigits 4 n := by decide

theorem tame_escapeChar (c : Char) : Tame (escapeChar c) := by
  unfold escapeChar
  split
  · next h => rcases h with rfl | rfl <;> exact tame_escape (by decide)
  · next h =>
    split
    · next hc =>
      unfold escapeControl
      split
      · exact tame_escape (by decide)
      · exact tame_escape (by decide)
      · exact tame_escape (by decide)
      · exact tame_escape (by decide)
      · exact tame_escape (by decide)
      · obtain ⟨x, y, z, w, hdigits, hnumber⟩ := exists_hexDigits hc
        refine ⟨by simpa using not_mem_hexDigits _ hc, fun rest => ?_⟩
        rw [hdigits]
        exact spellsHalf_escape rest hnumber (by omega)
    · next hc =>
      have hreturn : c ≠ '\r' := by
        rintro rfl
        exact hc (by decide)
      exact tame_nil.cons ⟨hreturn, (not_or.1 h).2⟩

theorem tame_flatMap (cs : List Char) : Tame (cs.flatMap escapeChar) := by
  induction cs with
  | nil => exact tame_nil
  | cons c cs ih => exact (tame_escapeChar c).append ih

theorem tame_quote (s : String) : Tame (quote s) :=
  ((tame_flatMap s.toList).append (tame_nil.cons (by decide))).cons (by decide)

/-! ## Values -/

section

variable (layout : Layout)

theorem tame_lead (depth : Nat) : Tame (layout.lead depth) := by
  cases layout with
  | compact => exact tame_nil
  | indented =>
    refine Tame.cons (tame_of_forall fun c hc => ?_) (by decide)
    rw [List.eq_of_mem_replicate hc]
    decide

theorem tame_colon : Tame layout.colon := by
  cases layout <;> exact tame_of_all (by decide)

mutual

/-- What is written for a value is tame. -/
theorem tame_write : ∀ (v : Json) (depth : Nat), Tame (write layout depth v)
  | .null, _ => tame_of_forall (by simp [write])
  | .bool b, _ => by cases b <;> exact tame_of_forall (by simp [write])
  | .int n, _ => tame_writeInt n
  | .float x, _ => tame_render x
  | .str s, _ => tame_quote s
  | .arr [], _ => tame_of_forall (by simp [write])
  | .arr (v :: items), depth => by
    have hitem := (tame_lead layout (depth + 1)).append (tame_write v (depth + 1))
    have hitems := hitem.append (tame_writeItems items (depth + 1))
    exact ((hitems.cons (by decide)).append (tame_lead layout depth)).append (tame_nil.cons (by decide))
  | .obj [], _ => tame_of_forall (by simp [write])
  | .obj ((k, v) :: members), depth => by
    have hkey := ((tame_lead layout (depth + 1)).append (tame_quote k)).append (tame_colon layout)
    have hmembers := (hkey.append (tame_write v (depth + 1))).append (tame_writeMembers members (depth + 1))
    exact ((hmembers.cons (by decide)).append (tame_lead layout depth)).append (tame_nil.cons (by decide))

theorem tame_writeItems : ∀ (items : List Json) (depth : Nat), Tame (writeItems layout depth items)
  | [], _ => tame_nil
  | v :: items, depth =>
    (((tame_lead layout depth).append (tame_write v depth)).append (tame_writeItems items depth)).cons (by decide)

theorem tame_writeMembers : ∀ (members : List (String × Json)) (depth : Nat), Tame (writeMembers layout depth members)
  | [], _ => tame_nil
  | (k, v) :: members, depth => by
    have hkey := ((tame_lead layout depth).append (tame_quote k)).append (tame_colon layout)
    exact ((hkey.append (tame_write v depth)).append (tame_writeMembers members depth)).cons (by decide)

end

end

end ChatRelay.Json
