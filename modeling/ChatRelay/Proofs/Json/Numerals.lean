import ChatRelay.Json.Parser
import ChatRelay.Json.Printer
import ChatRelay.Proofs.Binary64.Decimals

/-!
# Numbers that read back

What is written for a number reads as the number, whatever the text goes on with that cannot belong to it.

- `Stops`: the text goes on with nothing that belongs to a number;
- `readUnsigned_toDigits`: integers, as long as their digits are not too many;
- `readUnsigned_renderDecimal`: decimals, in each of the forms that they are written in.
-/

namespace ChatRelay.Json

/-! ## Runs of digits -/

/-- The text does not go on with a digit. -/
def NoDigit (cs : List Char) : Prop := ∀ c ∈ cs.head?, isDigit c = false

/-- The text goes on with nothing that belongs to a number. -/
def Stops (cs : List Char) : Prop := ∀ c ∈ cs.head?, isDigit c = false ∧ c ≠ '.' ∧ c ≠ 'e' ∧ c ≠ 'E'

theorem Stops.noDigit {cs : List Char} (h : Stops cs) : NoDigit cs := fun c hc => (h c hc).1

@[simp] theorem stops_nil : Stops [] := by simp [Stops]

theorem stops_cons {c : Char} (cs : List Char) (h : isDigit c = false ∧ c ≠ '.' ∧ c ≠ 'e' ∧ c ≠ 'E') :
    Stops (c :: cs) := by simpa [Stops] using h

theorem isDigit_eq (c : Char) : isDigit c = c.isDigit := by
  simp only [isDigit, Char.isDigit, Char.toNat, UInt32.le_iff_toNat_le, ge_iff_le]
  rfl

theorem isDigit_of_mem_toDigits {n : Nat} {c : Char} (h : c ∈ Nat.toDigits 10 n) : isDigit c = true :=
  (isDigit_eq c).trans (Nat.isDigit_of_mem_toDigits (by norm_num) (by norm_num) h)

theorem spanDigits_append {ds rest : List Char} (hds : ∀ c ∈ ds, isDigit c = true) (hrest : NoDigit rest) :
    spanDigits (ds ++ rest) = (ds, rest) := by
  have htake : rest.takeWhile isDigit = [] := by
    cases rest with
    | nil => rfl
    | cons c cs => simp [hrest c rfl]
  have hdrop : rest.dropWhile isDigit = rest := by
    cases rest with
    | nil => rfl
    | cons c cs => simp [hrest c rfl]
  simp [spanDigits, List.takeWhile_append_of_pos hds, List.dropWhile_append_of_pos hds, htake, hdrop]

/-- The digits of an integer part: a lone zero, or digits that do not begin with zero. -/
inductive IsWhole : List Char → Prop
  | zero : IsWhole ['0']
  | digits {d : Char} {more : List Char} : d ≠ '0' → (∀ c ∈ d :: more, isDigit c = true) → IsWhole (d :: more)

theorem IsWhole.ne_nil {ds : List Char} (h : IsWhole ds) : ds ≠ [] := by cases h <;> simp

theorem readWhole_append {ds rest : List Char} (h : IsWhole ds) (hrest : NoDigit rest) :
    readWhole (ds ++ rest) = (ds, rest) := by
  cases h with
  | zero => rfl
  | @digits d more hd hds =>
    rw [← spanDigits_append hds hrest]
    unfold readWhole
    split
    · next heq => exact absurd (List.cons.inj heq).1 hd
    · rfl

/-! ## The digits of a number -/

theorem digitChar_ne_zero : ∀ n < 10, n ≠ 0 → n.digitChar ≠ '0' := by decide

/-- The digits of a positive number do not begin with zero. -/
theorem toDigits_eq_cons {n : Nat} (hn : n ≠ 0) : ∃ d more, Nat.toDigits 10 n = d :: more ∧ d ≠ '0' := by
  induction n using Nat.strong_induction_on with
  | _ n ih =>
    rcases Nat.lt_or_ge n 10 with hlt | hge
    · exact ⟨_, [], Nat.toDigits_of_lt_base hlt, digitChar_ne_zero n hlt hn⟩
    · obtain ⟨d, more, heq, hd⟩ := ih (n / 10) (by omega) (by omega)
      exact ⟨d, more ++ [(n % 10).digitChar], by rw [Nat.toDigits_of_base_le (by norm_num) hge, heq]; rfl, hd⟩

theorem isWhole_toDigits (n : Nat) : IsWhole (Nat.toDigits 10 n) := by
  by_cases hn : n = 0
  · subst hn
    exact .zero
  · obtain ⟨d, more, heq, hd⟩ := toDigits_eq_cons hn
    have hds (c : Char) (hc : c ∈ d :: more) : isDigit c = true := isDigit_of_mem_toDigits (n := n) (by rwa [heq])
    rw [heq]
    exact .digits hd hds

/-- Digits spell a number with no more digits. -/
theorem ofDigitChars_lt {ds : List Char} (h : ∀ c ∈ ds, isDigit c = true) :
    Nat.ofDigitChars 10 ds 0 < 10 ^ ds.length := by
  induction ds with
  | nil => simp
  | cons c cs ih =>
    have hc : c.toNat - '0'.toNat ≤ 9 := by
      have hdigit := h c List.mem_cons_self
      simp only [isDigit, Bool.and_eq_true, decide_eq_true_eq] at hdigit
      have hzero : '0'.toNat = 48 := rfl
      omega
    have hcs := ih fun d hd => h d (List.mem_cons_of_mem _ hd)
    rw [Nat.ofDigitChars_cons, Nat.mul_zero, Nat.zero_add, Nat.ofDigitChars_eq_ofDigitChars_zero, List.length_cons,
      Nat.pow_succ]
    calc 10 ^ cs.length * (c.toNat - '0'.toNat) + Nat.ofDigitChars 10 cs 0
        < 10 ^ cs.length * 9 + 10 ^ cs.length := Nat.add_lt_add_of_le_of_lt (Nat.mul_le_mul_left _ hc) hcs
      _ = 10 ^ cs.length * 10 := by ring

theorem digitCount_ofDigitChars {ds : List Char} (hne : ds ≠ []) (h : ∀ c ∈ ds, isDigit c = true) :
    Binary64.digitCount (Nat.ofDigitChars 10 ds 0) ≤ ds.length :=
  (Binary64.digitCount_le_iff (List.length_pos_of_ne_nil hne)).2 (ofDigitChars_lt h)

/-! ## Numbers without sign -/

theorem readFraction?_of_stops {rest : List Char} (h : Stops rest) : readFraction? rest = none := by
  unfold readFraction?
  split
  · exact absurd rfl (h '.' rfl).2.1
  · rfl

theorem readExponent?_of_stops {rest : List Char} (h : Stops rest) : readExponent? rest = none := by
  unfold readExponent?
  split
  · next c cs => simp [(h c rfl).2.2]
  · rfl

/-- The number of a text that goes on neither with a fraction nor with an exponent is an integer. -/
theorem readUnsigned_whole [Host] (negative : Bool) {ds rest : List Char} (hds : IsWhole ds)
    (hlength : Host.digitFault? ds.length = none) (hrest : Stops rest) :
    readUnsigned negative (ds ++ rest) =
      .ok (.int (if negative then -(Nat.ofDigitChars 10 ds 0 : Int) else Nat.ofDigitChars 10 ds 0), rest) := by
  simp [readUnsigned, readWhole_append hds hrest.noDigit, hds.ne_nil, readFraction?_of_stops hrest,
    readExponent?_of_stops hrest, hlength]

theorem readUnsigned_toDigits [Host] (negative : Bool) {n : Nat} {rest : List Char}
    (hn : Host.digitFault? (Binary64.digitCount n) = none) (hrest : Stops rest) :
    readUnsigned negative (Nat.toDigits 10 n ++ rest) = .ok (.int (if negative then -(n : Int) else n), rest) := by
  rw [readUnsigned_whole negative (isWhole_toDigits n) hn hrest, Nat.ofDigitChars_ten_toDigits]

theorem readFraction?_append {decimals tail : List Char} (hne : decimals ≠ [])
    (hds : ∀ c ∈ decimals, isDigit c = true) (htail : NoDigit tail) :
    readFraction? ('.' :: (decimals ++ tail)) = some (decimals, tail) := by
  simp [readFraction?, spanDigits_append hds htail, hne]

/-- The number of a text with a fraction. What follows may be an exponent. -/
theorem readUnsigned_fraction [Host] (negative : Bool) {ds : List Char} (decimals : List Char) {tail rest : List Char}
    {power : Int} (hds : IsWhole ds) (hne : decimals ≠ []) (hdecimals : ∀ c ∈ decimals, isDigit c = true)
    (htail : NoDigit tail)
    (hpower : readExponent? tail = some (power, rest) ∨ readExponent? tail = none ∧ power = 0 ∧ rest = tail) :
    readUnsigned negative (ds ++ '.' :: (decimals ++ tail)) =
      .ok (.float (Binary64.ofDecimal negative (Nat.ofDigitChars 10 (ds ++ decimals) 0) (power - decimals.length)),
        rest) := by
  have hpoint : NoDigit ('.' :: (decimals ++ tail)) := by simp [NoDigit, isDigit]
  rcases hpower with hpower | ⟨hpower, rfl, rfl⟩ <;>
    simp [readUnsigned, readWhole_append hds hpoint, hds.ne_nil, readFraction?_append hne hdecimals htail, hpower]

/-- The number of a text without fraction that has an exponent. -/
theorem readUnsigned_exponent [Host] (negative : Bool) {ds tail rest : List Char} {power : Int} (hds : IsWhole ds)
    (htail : NoDigit tail) (hpoint : readFraction? tail = none) (hpower : readExponent? tail = some (power, rest)) :
    readUnsigned negative (ds ++ tail) =
      .ok (.float (Binary64.ofDecimal negative (Nat.ofDigitChars 10 ds 0) power), rest) := by
  simp [readUnsigned, readWhole_append hds htail, hds.ne_nil, hpoint, hpower]

/-- An exponent reads back. -/
theorem readExponent?_renderExponent (e : Int) {rest : List Char} (h : NoDigit rest) :
    readExponent? (Binary64.renderExponent e ++ rest) = some (e, rest) := by
  obtain ⟨ds, hds⟩ : ∃ ds, ds = if (Nat.toDigits 10 e.natAbs).length < 2 then '0' :: Nat.toDigits 10 e.natAbs
      else Nat.toDigits 10 e.natAbs := ⟨_, rfl⟩
  have hdigits : ∀ c ∈ ds, isDigit c = true := by
    intro c hc
    rw [hds] at hc
    split at hc
    · rcases List.mem_cons.1 hc with rfl | hc
      · rfl
      · exact isDigit_of_mem_toDigits hc
    · exact isDigit_of_mem_toDigits hc
  have hvalue : Nat.ofDigitChars 10 ds 0 = e.natAbs := by
    rw [hds]
    split
    · rw [Nat.ofDigitChars_cons]
      exact Nat.ofDigitChars_ten_toDigits
    · exact Nat.ofDigitChars_ten_toDigits
  have hne : ds ≠ [] := by
    rw [hds]
    split
    · simp
    · exact Nat.toDigits_ne_nil
  unfold Binary64.renderExponent
  dsimp only
  rw [← hds]
  by_cases he : e < 0
  · simp [readExponent?, readSign, he, spanDigits_append hdigits h, hne, hvalue, abs_of_neg he]
  · simp [readExponent?, readSign, he, spanDigits_append hdigits h, hne, hvalue, abs_of_nonneg (not_lt.1 he)]

/-! ## Decimals -/

theorem noDigit_renderExponent (e : Int) (rest : List Char) : NoDigit (Binary64.renderExponent e ++ rest) := by
  simp [NoDigit, Binary64.renderExponent, isDigit]

theorem isDigit_of_mem_replicate {n : Nat} {c : Char} (h : c ∈ List.replicate n '0') : isDigit c = true := by
  rw [List.eq_of_mem_replicate h]
  rfl

section

variable [Host] (negative : Bool) {d : Char} {more rest : List Char} (hd : d ≠ '0')
  (hdigits : ∀ c ∈ d :: more, isDigit c = true) (hrest : Stops rest)
include hd hdigits hrest

/-- Zeros after the digits, and a zero behind the point. -/
theorem readUnsigned_padded (k : Nat) :
    readUnsigned negative (d :: more ++ List.replicate k '0' ++ ['.', '0'] ++ rest) =
      .ok (.float (Binary64.ofDecimal negative (Nat.ofDigitChars 10 (d :: more) 0) k), rest) := by
  have hwhole : IsWhole (d :: more ++ List.replicate k '0') :=
    .digits hd fun c hc =>
      (List.mem_append.1 (show c ∈ (d :: more) ++ _ from hc)).elim (hdigits c) isDigit_of_mem_replicate
  have hread := readUnsigned_fraction negative ['0'] hwhole (by simp) (by simp [isDigit])
    hrest.noDigit (.inr ⟨readExponent?_of_stops hrest, rfl, rfl⟩)
  have hvalue : Nat.ofDigitChars 10 (d :: more ++ List.replicate k '0' ++ ['0']) 0 =
      Nat.ofDigitChars 10 (d :: more) 0 * 10 ^ (k + 1) := by
    rw [List.append_assoc, ← List.replicate_succ', Nat.ofDigitChars_append, Nat.ofDigitChars_replicate_zero,
      Nat.mul_comm]
  rw [hvalue, Binary64.ofDecimal_mul_pow] at hread
  simpa using hread

/-- The point stands among the digits. -/
theorem readUnsigned_pointed {k : Nat} (hk : k < more.length) :
    readUnsigned negative ((d :: more).take (k + 1) ++ '.' :: (d :: more).drop (k + 1) ++ rest) =
      .ok (.float (Binary64.ofDecimal negative (Nat.ofDigitChars 10 (d :: more) 0) (k - more.length)), rest) := by
  have hwhole : IsWhole (d :: more.take k) :=
    .digits hd fun c hc => hdigits c (List.mem_of_mem_take (i := k + 1) hc)
  have hread := readUnsigned_fraction negative (more.drop k) hwhole (by simpa using hk)
    (fun c hc => hdigits c (List.mem_cons_of_mem _ (List.mem_of_mem_drop hc))) hrest.noDigit
    (.inr ⟨readExponent?_of_stops hrest, rfl, rfl⟩)
  have hvalue : d :: more.take k ++ more.drop k = d :: more := by
    rw [List.cons_append, List.take_append_drop]
  have hpower : (0 : Int) - (more.drop k).length = k - more.length := by
    rw [List.length_drop]
    omega
  rw [hvalue, hpower] at hread
  simpa using hread

omit hd in
/-- A zero before the point, and zeros behind it. -/
theorem readUnsigned_below_one (k : Nat) :
    readUnsigned negative ('0' :: '.' :: (List.replicate k '0' ++ d :: more) ++ rest) =
      .ok (.float (Binary64.ofDecimal negative (Nat.ofDigitChars 10 (d :: more) 0) (-(k + (d :: more).length))),
        rest) := by
  have hread := readUnsigned_fraction negative (List.replicate k '0' ++ d :: more) IsWhole.zero
    (by simp) (fun c hc => (List.mem_append.1 hc).elim isDigit_of_mem_replicate (hdigits c)) hrest.noDigit
    (.inr ⟨readExponent?_of_stops hrest, rfl, rfl⟩)
  have hvalue : Nat.ofDigitChars 10 (['0'] ++ (List.replicate k '0' ++ d :: more)) 0 =
      Nat.ofDigitChars 10 (d :: more) 0 := by
    rw [← List.append_assoc, List.singleton_append, ← List.replicate_succ, Nat.ofDigitChars_append,
      Nat.ofDigitChars_replicate_zero, Nat.mul_zero]
  have hpower : (0 : Int) - (List.replicate k '0' ++ d :: more).length = -(k + (d :: more).length) := by
    rw [List.length_append, List.length_replicate]
    omega
  rw [hvalue, hpower] at hread
  simpa using hread

/-- A lone digit with an exponent. -/
theorem readUnsigned_digit (hmore : more = []) (top : Int) :
    readUnsigned negative (d :: Binary64.renderExponent top ++ rest) =
      .ok (.float (Binary64.ofDecimal negative (Nat.ofDigitChars 10 (d :: more) 0) top), rest) := by
  subst hmore
  exact readUnsigned_exponent negative (.digits hd hdigits) (noDigit_renderExponent top rest) rfl
    (readExponent?_renderExponent top hrest.noDigit)

/-- The point stands behind the first digit, and there is an exponent. -/
theorem readUnsigned_scientific (hmore : more ≠ []) (top : Int) :
    readUnsigned negative (d :: '.' :: more ++ Binary64.renderExponent top ++ rest) =
      .ok (.float (Binary64.ofDecimal negative (Nat.ofDigitChars 10 (d :: more) 0) (top - more.length)), rest) := by
  have hwhole : IsWhole [d] := .digits hd fun c hc => hdigits c (List.mem_cons.2 (.inl (List.mem_singleton.1 hc)))
  have hread := readUnsigned_fraction negative more hwhole hmore (fun c hc => hdigits c (List.mem_cons_of_mem _ hc))
    (noDigit_renderExponent top rest) (.inl (readExponent?_renderExponent top hrest.noDigit))
  simpa using hread

end

/-- A decimal reads back as the number that it stands for. -/
theorem readUnsigned_renderDecimal [Host] (negative : Bool) {digits : Nat} (exponent : Int) (hdigits : digits ≠ 0)
    {rest : List Char} (hrest : Stops rest) :
    readUnsigned negative (Binary64.renderDecimal digits exponent ++ rest) =
      .ok (.float (Binary64.ofDecimal negative digits exponent), rest) := by
  obtain ⟨d, more, hds, hd⟩ := toDigits_eq_cons hdigits
  have hall : ∀ c ∈ d :: more, isDigit c = true := fun c hc => isDigit_of_mem_toDigits (n := digits) (by rwa [hds])
  have hvalue : Nat.ofDigitChars 10 (d :: more) 0 = digits := by rw [← hds, Nat.ofDigitChars_ten_toDigits]
  unfold Binary64.renderDecimal
  dsimp only
  rw [hds]
  have hlength : ((d :: more).length : Int) = more.length + 1 := rfl
  split
  · next htop =>
    split
    · next hexp =>
      rw [readUnsigned_padded negative hd hall hrest, hvalue, Int.toNat_of_nonneg hexp]
    · next hexp =>
      obtain ⟨k, hk⟩ : ∃ k : Nat, (k : Int) = (d :: more).length - 1 + exponent :=
        ⟨(((d :: more).length : Int) - 1 + exponent).toNat, by omega⟩
      have hpoint : (((d :: more).length : Int) - 1 + exponent + 1).toNat = k + 1 := by omega
      have hpower : (k : Int) - more.length = exponent := by omega
      rw [hpoint, readUnsigned_pointed negative hd hall hrest (by omega), hvalue, hpower]
  · split
    · next hsmall =>
      obtain ⟨k, hk⟩ : ∃ k : Nat, (-(((d :: more).length : Int) - 1 + exponent) - 1).toNat = k := ⟨_, rfl⟩
      have hpower : -((k : Int) + (d :: more).length) = exponent := by omega
      rw [hk, readUnsigned_below_one negative hall hrest, hvalue, hpower]
    · obtain ⟨top, htop⟩ : ∃ top : Int, ((d :: more).length : Int) - 1 + exponent = top := ⟨_, rfl⟩
      have hpower : top - more.length = exponent := by omega
      rw [htop]
      cases more with
      | nil =>
        have hexponent : top = exponent := by simpa using hpower
        rw [readUnsigned_digit negative hd hall hrest rfl, hvalue, hexponent]
      | cons d' more => rw [readUnsigned_scientific negative hd hall hrest (by simp), hvalue, hpower]

/-! ## Numbers with a sign -/

/-- Something begins with a digit. -/
def BeginsWithDigit (cs : List Char) : Prop := ∃ d more, cs = d :: more ∧ isDigit d = true

theorem BeginsWithDigit.append {cs : List Char} (h : BeginsWithDigit cs) (rest : List Char) :
    BeginsWithDigit (cs ++ rest) := by
  obtain ⟨d, more, rfl, hd⟩ := h
  exact ⟨d, more ++ rest, rfl, hd⟩

theorem readNumber_negative [Host] {cs : List Char} (h : BeginsWithDigit cs) :
    readNumber ('-' :: cs) = readUnsigned true cs := by
  obtain ⟨d, more, rfl, hd⟩ := h
  unfold readNumber
  split
  · next heq =>
    obtain ⟨rfl, -⟩ := List.cons.inj (List.cons.inj heq).2
    exact absurd hd (by decide)
  · next heq => rw [(List.cons.inj heq).2]
  · next hne => exact absurd rfl (hne _)

theorem readNumber_positive [Host] {cs : List Char} (h : BeginsWithDigit cs) :
    readNumber cs = readUnsigned false cs := by
  obtain ⟨d, more, rfl, hd⟩ := h
  have hsign : d ≠ '-' := by
    rintro rfl
    exact absurd hd (by decide)
  unfold readNumber
  split
  · next heq => exact absurd (List.cons.inj heq).1 hsign
  · next heq => exact absurd (List.cons.inj heq).1 hsign
  · rfl

theorem beginsWithDigit_toDigits (n : Nat) : BeginsWithDigit (Nat.toDigits 10 n) := by
  obtain ⟨d, more, hds⟩ := List.exists_cons_of_ne_nil (Nat.toDigits_ne_nil (b := 10) (n := n))
  exact ⟨d, more, hds, isDigit_of_mem_toDigits (n := n) (by rw [hds]; exact List.mem_cons_self)⟩

theorem beginsWithDigit_renderDecimal (digits : Nat) (exponent : Int) :
    BeginsWithDigit (Binary64.renderDecimal digits exponent) := by
  obtain ⟨d, more, hds, hd⟩ := beginsWithDigit_toDigits digits
  unfold Binary64.renderDecimal
  dsimp only
  rw [hds]
  split
  · next htop =>
    split
    · exact ⟨d, _, rfl, hd⟩
    · obtain ⟨k, hk⟩ : ∃ k : Nat, (((d :: more).length : Int) - 1 + exponent + 1).toNat = k + 1 :=
        ⟨(((d :: more).length : Int) - 1 + exponent).toNat, by omega⟩
      rw [hk]
      exact ⟨d, _, rfl, hd⟩
  · split
    · exact ⟨'0', _, rfl, rfl⟩
    · cases more <;> exact ⟨d, _, rfl, hd⟩

/-- What is written for a magnitude begins with a digit. -/
theorem beginsWithDigit_magnitude (x : Binary64.Magnitude) : BeginsWithDigit
    (if x.m = 0 then ['0', '.', '0'] else Binary64.renderDecimal x.shortest.1 x.shortest.2) := by
  split
  · exact ⟨'0', _, rfl, rfl⟩
  · exact beginsWithDigit_renderDecimal _ _

/-- An integer reads back, as long as its digits are not too many. -/
theorem readNumber_writeInt [Host] {n : Int} (hn : Host.digitFault? (Binary64.digitCount n.natAbs) = none)
    {rest : List Char} (hrest : Stops rest) : readNumber (writeInt n ++ rest) = .ok (.int n, rest) := by
  have hdigit := (beginsWithDigit_toDigits n.natAbs).append rest
  unfold writeInt
  split
  · next hneg =>
    rw [List.cons_append, readNumber_negative hdigit, readUnsigned_toDigits true hn hrest]
    simp [abs_of_neg hneg]
  · next hpos =>
    rw [readNumber_positive hdigit, readUnsigned_toDigits false hn hrest]
    simp [abs_of_nonneg (not_lt.1 hpos)]

/-- A finite number of the binary format reads back. -/
theorem readNumber_render [Host] (negative : Bool) (x : Binary64.Magnitude) {rest : List Char} (hrest : Stops rest) :
    readNumber (Binary64.render spelling (.finite negative x) ++ rest) = .ok (.float (.finite negative x), rest) := by
  obtain ⟨body, hbody⟩ : ∃ body, (if x.m = 0 then ['0', '.', '0']
      else Binary64.renderDecimal x.shortest.1 x.shortest.2) = body := ⟨_, rfl⟩
  have hdigit : BeginsWithDigit (body ++ rest) := by
    rw [← hbody]
    exact (beginsWithDigit_magnitude x).append rest
  have hread : readUnsigned negative (body ++ rest) = .ok (.float (.finite negative x), rest) := by
    rw [← hbody]
    split
    · next hx =>
      have h := readUnsigned_fraction negative ['0'] IsWhole.zero (by simp) (by simp [isDigit])
        hrest.noDigit (.inr ⟨readExponent?_of_stops hrest, rfl, rfl⟩)
      rw [Binary64.Magnitude.eq_zero hx]
      exact h
    · next hx =>
      rw [readUnsigned_renderDecimal negative _ (x.shortest_ne_zero hx) hrest, x.ofDecimal_shortest hx]
  unfold Binary64.render
  dsimp only
  rw [hbody]
  cases negative with
  | false => exact (readNumber_positive hdigit).trans hread
  | true => exact (readNumber_negative hdigit).trans hread

end ChatRelay.Json
