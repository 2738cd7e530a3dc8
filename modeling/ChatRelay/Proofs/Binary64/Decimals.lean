import ChatRelay.Binary64.Shortest
import ChatRelay.Proofs.Binary64.Rounding

/-!
# Decimals that read back

The decimal that a number is shown as reads back as the number, with either sign and however its trailing zeros are
written.

- `ofDecimal_mul_pow`: trailing zeros count as a greater exponent;
- `Magnitude.ofDecimal_exactDecimal`: a magnitude that is written out exactly reads back;
- `Magnitude.ofDecimal_shortest`: so does its shortest decimal.
-/

namespace ChatRelay.Binary64

/-! ## Numbers of digits -/

theorem digitCount_pos (n : Nat) : 0 < digitCount n := Nat.length_toDigits_pos

theorem digitCount_le_iff {n k : Nat} (hk : 0 < k) : digitCount n ≤ k ↔ n < 10 ^ k :=
  Nat.length_toDigits_le_iff (by norm_num) hk

theorem lt_digitCount_pow {k : Nat} (hk : 0 < k) : k < digitCount (10 ^ k) :=
  not_le.1 fun h => Nat.lt_irrefl _ ((digitCount_le_iff hk).1 h)

theorem digitCount_mul_ten {n : Nat} (hn : n ≠ 0) : digitCount (n * 10) = digitCount n + 1 := by
  unfold digitCount
  rw [Nat.toDigits_of_base_le (by norm_num) (by omega), Nat.mul_div_cancel _ (by norm_num), List.length_append]
  rfl

theorem two_pow_le_ten_pow {k n : Nat} (h : k ≤ 3 * n) : 2 ^ k ≤ 10 ^ n :=
  calc 2 ^ k ≤ 2 ^ (3 * n) := Nat.pow_le_pow_right (by norm_num) h
    _ = 8 ^ n := by rw [Nat.pow_mul]
    _ ≤ 10 ^ n := Nat.pow_le_pow_left (by norm_num) n

theorem two_pow_le_five_pow {k n : Nat} (h : k ≤ 2 * n) : 2 ^ k ≤ 5 ^ n :=
  calc 2 ^ k ≤ 2 ^ (2 * n) := Nat.pow_le_pow_right (by norm_num) h
    _ = 4 ^ n := by rw [Nat.pow_mul]
    _ ≤ 5 ^ n := Nat.pow_le_pow_left (by norm_num) n

/-! ## Reading decimals -/

/-- A decimal within the range of the format is read as a quotient. -/
theorem ofDecimal_eq_ofRatio (negative : Bool) {digits : Nat} {exponent : Int} (hd : digits ≠ 0)
    (hlow : -400 ≤ digitCount digits + exponent) (hhigh : digitCount digits + exponent ≤ 400) :
    ofDecimal negative digits exponent =
      ofRatio negative (scaleDown 10 (-exponent) digits 1).1 (scaleDown 10 (-exponent) digits 1).2 := by
  simp only [ofDecimal, hd, if_false, not_lt.2 hlow, not_lt.2 hhigh]

/-- A trailing zero counts as a greater exponent. -/
theorem ofDecimal_mul_ten (negative : Bool) (digits : Nat) (exponent : Int) :
    ofDecimal negative (digits * 10) exponent = ofDecimal negative digits (exponent + 1) := by
  by_cases hd : digits = 0
  · simp [ofDecimal, hd]
  · have hd' : digits * 10 ≠ 0 := by omega
    have htop : (digitCount (digits * 10) : Int) + exponent = digitCount digits + (exponent + 1) := by
      rw [digitCount_mul_ten hd]
      push_cast
      ring
    have hratio : ofRatio negative (scaleDown 10 (-exponent) (digits * 10) 1).1
          (scaleDown 10 (-exponent) (digits * 10) 1).2 =
        ofRatio negative (scaleDown 10 (-(exponent + 1)) digits 1).1
          (scaleDown 10 (-(exponent + 1)) digits 1).2 := by
      refine ofRatio_congr negative (scaleDown_pos (by norm_num) Nat.one_pos)
        (scaleDown_pos (by norm_num) Nat.one_pos) ?_
      rw [scaleDown_div (by norm_num), scaleDown_div (by norm_num)]
      have hten : (10 : ℚ) ≠ 0 := by norm_num
      push_cast
      rw [neg_add, zpow_add₀ hten, zpow_neg, zpow_neg, zpow_one]
      have hpow : (10 : ℚ) ^ exponent ≠ 0 := zpow_ne_zero _ hten
      field_simp
    simp only [ofDecimal, hd, hd', if_false, htop, hratio]

/-- Trailing zeros count as a greater exponent. -/
theorem ofDecimal_mul_pow (negative : Bool) (digits : Nat) (exponent : Int) (k : Nat) :
    ofDecimal negative (digits * 10 ^ k) exponent = ofDecimal negative digits (exponent + k) := by
  induction k generalizing exponent with
  | zero => simp
  | succ k ih =>
    rw [pow_succ, ← Nat.mul_assoc, ofDecimal_mul_ten, ih]
    congr 1
    push_cast
    ring

theorem ofDecimal_trimZeros (negative : Bool) (fuel digits : Nat) (exponent : Int) :
    ofDecimal negative (trimZeros fuel digits exponent).1 (trimZeros fuel digits exponent).2 =
      ofDecimal negative digits exponent := by
  induction fuel generalizing digits exponent with
  | zero => rfl
  | succ fuel ih =>
    unfold trimZeros
    split
    · next h =>
      have hten : digits / 10 * 10 = digits := by omega
      rw [ih, ← ofDecimal_mul_ten, hten]
    · rfl

/-- The sign of a quotient is the sign of its number. -/
theorem ofRatio_sign {num den : Nat} {x : Magnitude} (h : ofRatio false num den = .finite false x) (negative : Bool) :
    ofRatio negative num den = .finite negative x := by
  unfold ofRatio at h ⊢
  split
  · next hn =>
    rw [if_pos hn] at h
    obtain ⟨-, rfl⟩ := finite.inj h
    rfl
  · next hn =>
    rw [if_neg hn] at h
    dsimp only at h ⊢
    generalize (if roundHalfEven _ _ = Nat.pow 2 53 then _ else _ : Nat × Int) = c at h ⊢
    by_cases hc : Canonical c.1 c.2
    · rw [dif_pos hc] at h ⊢
      obtain ⟨-, rfl⟩ := finite.inj h
      rfl
    · rw [dif_neg hc] at h
      cases h

/-- The sign of a decimal is the sign of its number. -/
theorem ofDecimal_sign {digits : Nat} {exponent : Int} {x : Magnitude}
    (h : ofDecimal false digits exponent = .finite false x) (negative : Bool) :
    ofDecimal negative digits exponent = .finite negative x := by
  have hzero : zero false = .finite false x → zero negative = .finite negative x := by
    intro hz
    obtain ⟨-, rfl⟩ := finite.inj hz
    rfl
  unfold ofDecimal at h ⊢
  split
  · next hd =>
    rw [if_pos hd] at h
    exact hzero h
  · next hd =>
    rw [if_neg hd] at h
    dsimp only at h ⊢
    split
    · next hhigh =>
      rw [if_pos hhigh] at h
      cases h
    · next hhigh =>
      rw [if_neg hhigh] at h
      split
      · next hlow =>
        rw [if_pos hlow] at h
        exact hzero h
      · next hlow =>
        rw [if_neg hlow] at h
        exact ofRatio_sign h negative

/-! ## Decimals of a magnitude -/

namespace Magnitude

variable (x : Magnitude)

theorem m_lt : x.m < 2 ^ 53 := by
  rcases x.canonical with ⟨hm, -⟩ | ⟨-, hm, -⟩ <;> exact hm

theorem q_bounds : -1074 ≤ x.q ∧ x.q ≤ 971 := by
  rcases x.canonical with ⟨-, hq⟩ | ⟨-, -, hlow, hhigh⟩ <;> omega

/-- A magnitude that is written out exactly lies within the range in which decimals are read as quotients. -/
theorem exactDecimal_bounds (hx : x.m ≠ 0) : x.exactDecimal.1 ≠ 0 ∧
    -400 ≤ digitCount x.exactDecimal.1 + x.exactDecimal.2 ∧
      digitCount x.exactDecimal.1 + x.exactDecimal.2 ≤ 400 := by
  obtain ⟨hlow, hhigh⟩ := x.q_bounds
  have hm := x.m_lt
  unfold exactDecimal
  split
  · next hq =>
    have hcount : digitCount (x.m * Nat.pow 2 x.q.toNat) ≤ 400 := by
      rw [digitCount_le_iff (by norm_num)]
      calc x.m * Nat.pow 2 x.q.toNat < 2 ^ 53 * 2 ^ x.q.toNat :=
            Nat.mul_lt_mul_of_pos_right hm (Nat.pow_pos (by norm_num))
        _ = 2 ^ (53 + x.q.toNat) := (pow_add 2 53 _).symm
        _ ≤ 10 ^ 400 := two_pow_le_ten_pow (by omega)
    have hpos := digitCount_pos (x.m * Nat.pow 2 x.q.toNat)
    refine ⟨Nat.mul_ne_zero hx (Nat.pow_pos (by norm_num)).ne', ?_, ?_⟩
    · dsimp only
      omega
    · dsimp only
      omega
  · next hq =>
    obtain ⟨k, hk⟩ : ∃ k : Nat, (-x.q).toNat = k := ⟨_, rfl⟩
    have hqk : x.q = -k := by omega
    have hk1074 : k ≤ 1074 := by omega
    rw [hk]
    refine ⟨Nat.mul_ne_zero hx (Nat.pow_pos (by norm_num)).ne', ?_, ?_⟩
    · by_contra hshort
      dsimp only at hshort
      -- the power of five alone has more digits than that
      have hpos := digitCount_pos (x.m * Nat.pow 5 k)
      have hcount : digitCount (x.m * Nat.pow 5 k) ≤ k - 401 := by omega
      rw [digitCount_le_iff (by omega)] at hcount
      refine absurd hcount (not_lt.2 ?_)
      calc 10 ^ (k - 401) = 2 ^ (k - 401) * 5 ^ (k - 401) := by rw [← Nat.mul_pow]
        _ ≤ 5 ^ 401 * 5 ^ (k - 401) := Nat.mul_le_mul_right _ (two_pow_le_five_pow (by omega))
        _ = 5 ^ k := by rw [← pow_add, Nat.add_sub_cancel' (by omega)]
        _ ≤ x.m * Nat.pow 5 k := Nat.le_mul_of_pos_left _ (Nat.pos_of_ne_zero hx)
    · have hcount : digitCount (x.m * Nat.pow 5 k) ≤ 16 + k := by
        rw [digitCount_le_iff (by omega), pow_add]
        calc x.m * Nat.pow 5 k < 2 ^ 53 * 10 ^ k :=
              Nat.mul_lt_mul_of_lt_of_le hm (Nat.pow_le_pow_left (by norm_num) k) (by positivity)
          _ < 10 ^ 16 * 10 ^ k := Nat.mul_lt_mul_of_pos_right (by norm_num) (by positivity)
      dsimp only
      omega

/-- A magnitude that is written out exactly reads back. -/
theorem ofDecimal_exactDecimal (hx : x.m ≠ 0) :
    ofDecimal false x.exactDecimal.1 x.exactDecimal.2 = .finite false x := by
  obtain ⟨hd, hlow, hhigh⟩ := x.exactDecimal_bounds hx
  rw [ofDecimal_eq_ofRatio false hd hlow hhigh, ← ofRatio_ratio false x]
  refine ofRatio_congr false (scaleDown_pos (by norm_num) Nat.one_pos) x.ratio_pos ?_
  rw [scaleDown_div (by norm_num), x.ratio_div]
  unfold exactDecimal
  split
  · next hq =>
    simp only [Nat.pow_eq, Nat.cast_mul, Nat.cast_pow, Nat.cast_ofNat, Nat.cast_one, div_one, neg_zero, zpow_zero]
    rw [← zpow_natCast, Int.toNat_of_nonneg hq]
  · next hq =>
    obtain ⟨k, hk⟩ : ∃ k : Nat, x.q = -k := ⟨(-x.q).toNat, by omega⟩
    have hnat : (-x.q).toNat = k := by omega
    have htwo : (2 : ℚ) ^ k ≠ 0 := by positivity
    have hfive : (5 : ℚ) ^ k ≠ 0 := by positivity
    have hten : (10 : ℚ) ^ k = 2 ^ k * 5 ^ k := by rw [← mul_pow]; norm_num
    simp only [Nat.pow_eq, Nat.cast_mul, Nat.cast_pow, Nat.cast_ofNat, Nat.cast_one, div_one, hnat]
    rw [hk, neg_neg, zpow_natCast, zpow_neg, zpow_natCast, hten]
    field_simp

theorem onGrid?_reads {d : Nat × Int} {exponent : Int} (h : x.onGrid? exponent = some d) :
    ofDecimal false d.1 d.2 = .finite false x := by
  obtain ⟨digits, hfind, rfl⟩ := Option.map_eq_some_iff.1 h
  simpa using List.find?_some hfind

/-- The shortest decimal of a magnitude reads back, with either sign. -/
theorem ofDecimal_shortest (hx : x.m ≠ 0) (negative : Bool) :
    ofDecimal negative x.shortest.1 x.shortest.2 = .finite negative x := by
  refine ofDecimal_sign ?_ negative
  unfold shortest
  dsimp only
  rw [ofDecimal_trimZeros]
  rcases hsome : (List.range 17).findSome? fun (n : Nat) => x.onGrid? (floorLog10 x.ratio.1 x.ratio.2 - n) with _ | d
  · exact x.ofDecimal_exactDecimal hx
  · obtain ⟨n, -, hn⟩ := List.exists_of_findSome?_eq_some hsome
    exact x.onGrid?_reads hn

theorem shortest_ne_zero (hx : x.m ≠ 0) : x.shortest.1 ≠ 0 := by
  intro h
  have hread := x.ofDecimal_shortest hx false
  rw [h] at hread
  obtain ⟨-, rfl⟩ := finite.inj hread
  exact hx rfl

end Magnitude

end ChatRelay.Binary64
