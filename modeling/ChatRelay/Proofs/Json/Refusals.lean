import ChatRelay.Proofs.Json.RoundTrip
import Mathlib.Data.List.Infix

/-!
# Why a text is refused

A text without a value is malformed, unless it goes beyond a limit of the host: more digits than an integer may have
stand in a row in it, or there are more opening brackets in it than arrays and objects may lie inside one another.

- `HasLongRun`, `HasManyBrackets`: the texts that go beyond a limit;
- `Reads`: what a reader makes of a text inside some arrays and objects: it leaves the end of it, or it refuses it for
  one of the three reasons;
- `reads_value`: so does the reader of values, and therefore `refused_read`.
-/

namespace ChatRelay.Json

/-! ## Reasons -/

/-- The opening brackets in a text. -/
def brackets (cs : List Char) : Nat := cs.countP fun c => c = '[' || c = '{'

theorem brackets_suffix {cs cs' : List Char} (h : cs' <:+ cs) : brackets cs' ≤ brackets cs := h.sublist.countP_le

theorem brackets_cons {c : Char} (hc : c = '[' ∨ c = '{') (cs : List Char) : brackets (c :: cs) = brackets cs + 1 := by
  rcases hc with rfl | rfl <;> simp [brackets]

section

variable [Host]

/-- More digits than an integer may have stand in a row in a text. -/
def HasLongRun (cs : List Char) : Prop :=
  ∃ limit ∈ Host.digitLimit, ∃ digits, digits <:+: cs ∧ (∀ c ∈ digits, isDigit c = true) ∧ limit < digits.length

/-- There are more opening brackets in a text than arrays and objects may lie inside one another. -/
def HasManyBrackets (cs : List Char) : Prop := ∃ limit ∈ Host.depthLimit, limit < brackets cs

/-- What a reader makes of a text inside as many arrays and objects as given. -/
inductive Reads {α : Type} (inside : Nat) (cs : List Char) : Read α → Prop
  | rest {a : α} {rest : List Char} : rest <:+ cs → Reads inside cs (.ok (a, rest))
  | malformed : Reads inside cs (.error .malformed)
  | longRun : HasLongRun cs → Reads inside cs (.error .integerTooLong)
  | deep {limit : Nat} : limit ∈ Host.depthLimit → limit < inside + brackets cs → Reads inside cs (.error .tooDeep)

variable {α β : Type} {inside : Nat} {cs cs' : List Char} {r : Read α}

/-- What is made of the end of a text is made of the text. -/
theorem Reads.of_suffix (h : Reads inside cs' r) (hcs : cs' <:+ cs) : Reads inside cs r := by
  cases h with
  | rest hrest => exact .rest (hrest.trans hcs)
  | malformed => exact .malformed
  | longRun hrun =>
    obtain ⟨limit, hlimit, digits, hinfix, hdigits⟩ := hrun
    exact .longRun ⟨limit, hlimit, digits, hinfix.trans hcs.isInfix, hdigits⟩
  | deep hlimit hdeep => exact .deep hlimit (hdeep.trans_le (Nat.add_le_add_left (brackets_suffix hcs) _))

theorem Reads.map (h : Reads inside cs r) (f : α → β) : Reads inside cs (r.map fun x => (f x.1, x.2)) := by
  cases h with
  | rest hrest => exact .rest hrest
  | malformed => exact .malformed
  | longRun hrun => exact .longRun hrun
  | deep hlimit hdeep => exact .deep hlimit hdeep

/-- A refusal is passed on. -/
theorem Reads.refusal {e : ReadError} (h : Reads (α := α) inside cs (.error e)) :
    Reads (α := β) inside cs (.error e) := by
  cases h with
  | malformed => exact .malformed
  | longRun hrun => exact .longRun hrun
  | deep hlimit hdeep => exact .deep hlimit hdeep

theorem Reads.suffix {a : α} {rest : List Char} (h : Reads inside cs (.ok (a, rest))) : rest <:+ cs := by
  cases h with
  | rest hrest => exact hrest

/-- A rest behind one character more. -/
theorem Reads.behind {c : Char} (h : Reads inside cs r) : Reads inside (c :: cs) r :=
  h.of_suffix (List.suffix_cons _ _)

/-- What is read inside a bracket. -/
theorem Reads.bracketed {c : Char} (hc : c = '[' ∨ c = '{') (h : Reads (inside + 1) cs r) :
    Reads inside (c :: cs) r := by
  have hcount := brackets_cons hc cs
  cases h with
  | rest hrest => exact .rest (hrest.trans (List.suffix_cons _ _))
  | malformed => exact .malformed
  | longRun hrun => exact Reads.behind (.longRun hrun)
  | deep hlimit hdeep => exact .deep hlimit (by omega)

/-- A bracket that opens one array or object too many. -/
theorem Reads.tooDeep {c : Char} (hc : c = '[' ∨ c = '{') (h : (Host.depthFault? (inside + 1)).isSome) :
    Reads (α := α) inside (c :: cs) (.error .tooDeep) := by
  have hcount := brackets_cons hc cs
  obtain ⟨limit, hlimit, hdeep⟩ := Host.depthFault?_isSome_iff.1 h
  exact .deep hlimit (by omega)

end

/-! ## Strings -/

theorem skipSpace_suffix (cs : List Char) : skipSpace cs <:+ cs := List.dropWhile_suffix _

theorem reads_chars [Host] (inside : Nat) (acc cs : List Char) : Reads inside cs (readChars acc cs) := by
  fun_induction readChars acc cs with
  | case1 => exact .malformed
  | case2 => exact .rest (List.suffix_cons _ _)
  -- a pair of halves, and a half alone before another escape
  | case3 _ a b c d e f g h rest _ _ _ _ _ ih =>
    exact ih.of_suffix ⟨['\\', 'u', a, b, c, d, '\\', 'u', e, f, g, h], rfl⟩
  | case4 _ a b c d e f g h rest _ _ _ _ _ ih => exact ih.of_suffix ⟨['\\', 'u', a, b, c, d], rfl⟩
  | case5 => exact .malformed
  | case6 _ a b c d rest _ _ _ ih => exact ih.of_suffix ⟨['\\', 'u', a, b, c, d], rfl⟩
  | case7 => exact .malformed
  | case8 _ c rest _ _ _ _ ih => exact ih.of_suffix ⟨['\\', c], rfl⟩
  | case9 => exact .malformed
  | case10 => exact .malformed
  | case11 _ _ _ _ _ _ _ _ ih => exact ih.behind

/-! ## Numbers -/

theorem spanDigits_suffix (cs : List Char) : (spanDigits cs).2 <:+ cs := List.dropWhile_suffix _

theorem readWhole_suffix (cs : List Char) : (readWhole cs).2 <:+ cs := by
  unfold readWhole
  split
  · exact List.suffix_cons _ _
  · exact spanDigits_suffix cs

theorem readWhole_isInfix (cs : List Char) : (readWhole cs).1 <:+: cs := by
  unfold readWhole
  split
  · exact List.IsPrefix.isInfix ⟨_, rfl⟩
  · exact (List.takeWhile_prefix _).isInfix

theorem readFraction?_suffix (cs : List Char) {r : List Char × List Char} (h : readFraction? cs = some r) :
    r.2 <:+ cs := by
  unfold readFraction? at h
  split at h
  · split at h
    · cases h
    · obtain rfl := Option.some.inj h
      exact (spanDigits_suffix _).trans (List.suffix_cons _ _)
  · cases h

theorem readSign_suffix (cs : List Char) : (readSign cs).2 <:+ cs := by
  unfold readSign
  split
  · exact List.suffix_cons _ _
  · exact List.suffix_cons _ _
  · exact List.suffix_refl _

theorem readExponent?_suffix (cs : List Char) {r : Int × List Char} (h : readExponent? cs = some r) : r.2 <:+ cs := by
  unfold readExponent? at h
  split at h
  · split at h
    · dsimp only at h
      split at h
      · cases h
      · obtain rfl := Option.some.inj h
        exact ((spanDigits_suffix _).trans (readSign_suffix _)).trans (List.suffix_cons _ _)
    · cases h
  · cases h

/-- The rest behind a part that need not be there. -/
theorem getD_suffix {α : Type} {part : Option (α × List Char)} {cs : List Char} (h : ∀ r, part = some r → r.2 <:+ cs) :
    (part.map (·.2)).getD cs <:+ cs := by
  cases part with
  | none => exact List.suffix_refl _
  | some r => exact h r rfl

section

variable [Host] (inside : Nat)

theorem reads_unsigned (negative : Bool) (cs : List Char) : Reads inside cs (readUnsigned negative cs) := by
  have hfraction := getD_suffix fun _ => readFraction?_suffix (readWhole cs).2
  have hexponent := getD_suffix fun _ =>
    readExponent?_suffix (((readFraction? (readWhole cs).2).map (·.2)).getD (readWhole cs).2)
  unfold readUnsigned
  dsimp only
  split
  · exact .malformed
  · split
    · split
      · next hlong =>
        obtain ⟨limit, hlimit, hlong⟩ := Host.digitFault?_isSome_iff.1 hlong
        exact .longRun ⟨limit, hlimit, _, readWhole_isInfix cs, fun _ hc => isDigit_of_mem_readWhole hc, hlong⟩
      · exact .rest (readWhole_suffix cs)
    · exact .rest ((hexponent.trans hfraction).trans (readWhole_suffix cs))

theorem reads_number (cs : List Char) : Reads inside cs (readNumber cs) := by
  unfold readNumber
  split
  · next rest => exact .rest ⟨"-Infinity".toList, rfl⟩
  · exact (reads_unsigned _ _ _).behind
  · exact reads_unsigned _ _ _

end

/-! ## Values -/

section

variable [Host]

/-- What the readers of parts make of any text at a fuel. -/
structure ReadsParts (fuel : Nat) : Prop where
  value : ∀ inside cs, Reads inside cs (readValue fuel inside cs)
  items : ∀ inside acc cs, Reads inside cs (readItems fuel inside acc cs)
  members : ∀ inside acc cs, Reads inside cs (readMembers fuel inside acc cs)

variable {fuel : Nat}

theorem reads_value_succ (ih : ReadsParts fuel) (inside : Nat) (cs : List Char) :
    Reads inside cs (readValue (fuel + 1) inside cs) := by
  rw [readValue.eq_def]
  dsimp only
  split
  · exact ((reads_chars inside [] _).map Json.str).behind
  · next rest =>
    have hspace := skipSpace_suffix rest
    split
    · next hdeep => exact .tooDeep (.inr rfl) hdeep
    · refine Reads.bracketed (.inr rfl) (Reads.of_suffix ?_ hspace)
      split
      · next rest' hclose => exact .rest (hclose ▸ List.suffix_cons _ _)
      · exact (ih.members _ [] _).map fun ms => Json.obj (Assoc.ofList ms)
  · next rest =>
    have hspace := skipSpace_suffix rest
    split
    · next hdeep => exact .tooDeep (.inl rfl) hdeep
    · refine Reads.bracketed (.inl rfl) (Reads.of_suffix ?_ hspace)
      split
      · next rest' hclose => exact .rest (hclose ▸ List.suffix_cons _ _)
      · exact (ih.items _ [] _).map Json.arr
  · exact .rest ⟨"null".toList, rfl⟩
  · exact .rest ⟨"true".toList, rfl⟩
  · exact .rest ⟨"false".toList, rfl⟩
  · exact .rest ⟨"NaN".toList, rfl⟩
  · exact .rest ⟨"Infinity".toList, rfl⟩
  · exact reads_number _ _

theorem reads_items_succ (ih : ReadsParts fuel) (inside : Nat) (acc : List Json) (cs : List Char) :
    Reads inside cs (readItems (fuel + 1) inside acc cs) := by
  have hvalue := ih.value inside cs
  rw [readItems.eq_def]
  dsimp only
  split
  · next hv =>
    rw [hv] at hvalue
    exact hvalue.refusal
  · next v rest hv =>
    rw [hv] at hvalue
    have hspace := (skipSpace_suffix rest).trans hvalue.suffix
    split
    · next rest' hcomma =>
      rw [hcomma] at hspace
      exact ((ih.items _ _ _).of_suffix (skipSpace_suffix rest')).behind.of_suffix hspace
    · next rest' hclose =>
      rw [hclose] at hspace
      exact .rest ((List.suffix_cons _ _).trans hspace)
    · exact .malformed

theorem reads_members_succ (ih : ReadsParts fuel) (inside : Nat) (acc : List (String × Json)) (cs : List Char) :
    Reads inside cs (readMembers (fuel + 1) inside acc cs) := by
  rw [readMembers.eq_def]
  dsimp only
  split
  · next rest =>
    refine Reads.behind ?_
    have hkey := reads_chars inside [] rest
    split
    · next hk =>
      rw [hk] at hkey
      exact hkey.refusal
    · next k after hk =>
      rw [hk] at hkey
      have hspace := (skipSpace_suffix after).trans hkey.suffix
      split
      · next rest' hcolon =>
        rw [hcolon] at hspace
        -- everything behind the colon
        refine Reads.of_suffix (Reads.of_suffix ?_ (skipSpace_suffix rest')).behind hspace
        have hvalue := ih.value inside (skipSpace rest')
        split
        · next hv =>
          rw [hv] at hvalue
          exact hvalue.refusal
        · next v rest hv =>
          rw [hv] at hvalue
          have hspace := (skipSpace_suffix rest).trans hvalue.suffix
          split
          · next rest' hcomma =>
            rw [hcomma] at hspace
            exact ((ih.members _ _ _).of_suffix (skipSpace_suffix rest')).behind.of_suffix hspace
          · next rest' hclose =>
            rw [hclose] at hspace
            exact .rest ((List.suffix_cons _ _).trans hspace)
          · exact .malformed
      · exact .malformed
  · exact .malformed

theorem readsParts (fuel : Nat) : ReadsParts fuel := by
  induction fuel with
  | zero => exact ⟨fun _ _ => .malformed, fun _ _ _ => .malformed, fun _ _ _ => .malformed⟩
  | succ fuel ih => exact ⟨reads_value_succ ih, reads_items_succ ih, reads_members_succ ih⟩

/-- A text that is refused is malformed or goes beyond a limit, unless it would be read but for half a pair of
surrogates. -/
theorem refused_read {s : String} {e : ReadError} (h : read s = .error e) :
    e = .malformed ∨ e = .integerTooLong ∧ HasLongRun s.toList ∨ e = .tooDeep ∧ HasManyBrackets s.toList ∨
      e = .unpaired ∧ spellsHalf s.toList = true := by
  have hvalue := ((readsParts (2 * s.toList.length + 2)).value 0 (skipSpace s.toList)).of_suffix (skipSpace_suffix _)
  unfold read readText at h
  split at h
  · next hv =>
    obtain rfl := Except.error.inj h
    rw [hv] at hvalue
    cases hvalue with
    | malformed => exact .inl rfl
    | longRun hrun => exact .inr (.inl ⟨rfl, hrun⟩)
    | deep hlimit hdeep => exact .inr (.inr (.inl ⟨rfl, _, hlimit, by omega⟩))
  · split at h
    · exact .inl (Except.error.inj h).symm
    · split at h
      · next hhalf => exact .inr (.inr (.inr ⟨(Except.error.inj h).symm, hhalf⟩))
      · cases h

end

end ChatRelay.Json
