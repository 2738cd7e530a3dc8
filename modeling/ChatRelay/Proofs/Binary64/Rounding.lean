import ChatRelay.Binary64.Basic
import Mathlib.Algebra.Order.Field.Rat
import Mathlib.Algebra.Order.Field.Power
import Mathlib.Data.Nat.Log
import Mathlib.Tactic.FieldSimp
import Mathlib.Tactic.Linarith
import Mathlib.Tactic.NormNum
import Mathlib.Tactic.Positivity
import Mathlib.Tactic.Ring

/-!
# Rounding a quotient

The number nearest to a quotient depends on the quotient alone, not on how it is written, and a quotient that the
format holds is its own number.

- `floorLog2_spec`: the binary order of magnitude of a quotient;
- `ofRatio_congr`: equal quotients have the same number;
- `ofRatio_ratio`: the number of a magnitude that is written out is that magnitude.
-/

namespace ChatRelay.Binary64

/-! ## Scaling -/

section

variable {base num den num' den' : Nat} {e : Int}

theorem scaleDown_pos (hbase : 0 < base) (hden : 0 < den) : 0 < (scaleDown base e num den).2 := by
  unfold scaleDown
  split
  · exact Nat.mul_pos hden (Nat.pow_pos hbase)
  · exact hden

/-- A scaled quotient is the quotient divided by the power. -/
theorem scaleDown_div (hbase : 0 < base) :
    ((scaleDown base e num den).1 : ℚ) / (scaleDown base e num den).2 = num / den / (base : ℚ) ^ e := by
  have hb : (base : ℚ) ≠ 0 := by exact_mod_cast hbase.ne'
  unfold scaleDown
  split
  · next he =>
    have hpow : (base : ℚ) ^ e = (base : ℚ) ^ e.toNat := by
      rw [← zpow_natCast, Int.toNat_of_nonneg he]
    simp only [Nat.pow_eq, Nat.cast_mul, Nat.cast_pow]
    rw [hpow, div_div]
  · next he =>
    have hpow : (base : ℚ) ^ (-e).toNat = ((base : ℚ) ^ e)⁻¹ := by
      rw [← zpow_natCast, Int.toNat_of_nonneg (by omega), zpow_neg]
    simp only [Nat.pow_eq, Nat.cast_mul, Nat.cast_pow]
    rw [hpow, div_eq_mul_inv _ ((base : ℚ) ^ e), mul_div_right_comm]

/-- Comparing a quotient with a power. -/
theorem scaleDown_le_iff (hbase : 0 < base) (hden : 0 < den) :
    (scaleDown base e num den).2 ≤ (scaleDown base e num den).1 ↔ (base : ℚ) ^ e ≤ num / den := by
  have hpos : (0 : ℚ) < (scaleDown base e num den).2 := by exact_mod_cast scaleDown_pos hbase hden
  have hpow : (0 : ℚ) < (base : ℚ) ^ e := zpow_pos (by exact_mod_cast hbase) e
  rw [← Nat.cast_le (α := ℚ), ← one_le_div hpos, scaleDown_div hbase, one_le_div hpow]

end

/-! ## Orders of magnitude -/

section

variable {num den : Nat}

theorem floorLog2_spec (hnum : 0 < num) (hden : 0 < den) :
    (2 : ℚ) ^ floorLog2 num den ≤ num / den ∧ (num / den : ℚ) < 2 ^ (floorLog2 num den + 1) := by
  have hd : (0 : ℚ) < den := by exact_mod_cast hden
  set e : Int := (num.log2 : Int) - den.log2 with he
  have hle (n : Nat) (hn : 0 < n) : (2 : ℚ) ^ (n.log2 : Int) ≤ n := by
    exact_mod_cast Nat.log2_self_le hn.ne'
  have hlt (n : Nat) (hn : 0 < n) : (n : ℚ) < 2 ^ ((n.log2 : Int) + 1) := by
    exact_mod_cast Nat.lt_log2_self (n := n)
  have hupper : (num / den : ℚ) < 2 ^ (e + 1) := by
    rw [div_lt_iff₀ hd]
    calc (num : ℚ) < 2 ^ ((num.log2 : Int) + 1) := hlt num hnum
      _ = 2 ^ (e + 1) * 2 ^ (den.log2 : Int) := by rw [← zpow_add₀ (by norm_num)]; congr 1; omega
      _ ≤ 2 ^ (e + 1) * den := by gcongr; exact hle den hden
  have hlower : (2 : ℚ) ^ (e - 1) ≤ num / den := by
    rw [le_div_iff₀ hd]
    calc (2 : ℚ) ^ (e - 1) * den ≤ 2 ^ (e - 1) * 2 ^ ((den.log2 : Int) + 1) := by gcongr; exact (hlt den hden).le
      _ = 2 ^ (num.log2 : Int) := by rw [← zpow_add₀ (by norm_num)]; congr 1; omega
      _ ≤ num := hle num hnum
  have hiff := @scaleDown_le_iff 2 num den e (by norm_num) hden
  unfold floorLog2
  simp only [← he]
  split
  · next h => exact ⟨by exact_mod_cast hiff.1 h, hupper⟩
  · next h =>
    have hlt' : ¬(2 : ℚ) ^ e ≤ num / den := fun hc => h (hiff.2 (by exact_mod_cast hc))
    exact ⟨hlower, by rw [sub_add_cancel]; exact not_le.1 hlt'⟩

/-- The order of magnitude is the only exponent between whose powers the quotient lies. -/
theorem floorLog2_unique (hnum : 0 < num) (hden : 0 < den) {e : Int} (hle : (2 : ℚ) ^ e ≤ num / den)
    (hlt : (num / den : ℚ) < 2 ^ (e + 1)) : floorLog2 num den = e := by
  obtain ⟨hle', hlt'⟩ := floorLog2_spec hnum hden
  have h₁ : e < floorLog2 num den + 1 := (zpow_lt_zpow_iff_right₀ (by norm_num)).1 (hle.trans_lt hlt')
  have h₂ : floorLog2 num den < e + 1 := (zpow_lt_zpow_iff_right₀ (by norm_num)).1 (hle'.trans_lt hlt)
  omega

end

/-! ## Nearest natural numbers -/

theorem roundHalfEven_mul (num den : Nat) {k : Nat} (hk : 0 < k) :
    roundHalfEven (num * k) (den * k) = roundHalfEven num den := by
  unfold roundHalfEven
  rw [Nat.mul_div_mul_right _ _ hk, Nat.mul_mod_mul_right]
  simp only [← Nat.mul_assoc, Nat.mul_lt_mul_right hk, Nat.mul_right_cancel_iff hk]

theorem roundHalfEven_congr {num den num' den' : Nat} (hden : 0 < den) (hden' : 0 < den')
    (h : (num / den : ℚ) = num' / den') : roundHalfEven num den = roundHalfEven num' den' := by
  have hd : (den : ℚ) ≠ 0 := by exact_mod_cast hden.ne'
  have hd' : (den' : ℚ) ≠ 0 := by exact_mod_cast hden'.ne'
  have hcross : num * den' = num' * den := by
    rw [div_eq_div_iff hd hd'] at h
    exact_mod_cast h
  calc roundHalfEven num den = roundHalfEven (num * den') (den * den') := (roundHalfEven_mul num den hden').symm
    _ = roundHalfEven (num' * den) (den' * den) := by rw [hcross, Nat.mul_comm den den']
    _ = roundHalfEven num' den' := roundHalfEven_mul num' den' hden

theorem roundHalfEven_one (n : Nat) : roundHalfEven n 1 = n := by simp [roundHalfEven, Nat.mod_one]

/-! ## Nearest numbers -/

/-- Equal quotients have the same nearest number. -/
theorem ofRatio_congr (negative : Bool) {num den num' den' : Nat} (hden : 0 < den) (hden' : 0 < den')
    (h : (num / den : ℚ) = num' / den') : ofRatio negative num den = ofRatio negative num' den' := by
  have hd : (0 : ℚ) < den := by exact_mod_cast hden
  have hd' : (0 : ℚ) < den' := by exact_mod_cast hden'
  by_cases hnum : num = 0
  · have hnum' : num' = 0 := by
      rw [hnum, Nat.cast_zero, zero_div, eq_comm, div_eq_zero_iff] at h
      rcases h with h | h
      · exact_mod_cast h
      · exact absurd h hd'.ne'
    simp [ofRatio, hnum, hnum']
  · have hnum' : num' ≠ 0 := by
      rintro rfl
      rw [Nat.cast_zero, zero_div, div_eq_zero_iff] at h
      rcases h with h | h
      · exact hnum (by exact_mod_cast h)
      · exact hd.ne' h
    obtain ⟨hle, hlt⟩ := floorLog2_spec (Nat.pos_of_ne_zero hnum') hden'
    have hlog : floorLog2 num den = floorLog2 num' den' :=
      floorLog2_unique (Nat.pos_of_ne_zero hnum) hden (by rw [h]; exact hle) (by rw [h]; exact hlt)
    have hround (q : Int) : roundHalfEven (scaleDown 2 q num den).1 (scaleDown 2 q num den).2 =
        roundHalfEven (scaleDown 2 q num' den').1 (scaleDown 2 q num' den').2 := by
      refine roundHalfEven_congr (scaleDown_pos (by norm_num) hden) (scaleDown_pos (by norm_num) hden') ?_
      rw [scaleDown_div (by norm_num), scaleDown_div (by norm_num), h]
    simp only [ofRatio, hnum, hnum', if_false, hlog, hround]

namespace Magnitude

variable (x : Magnitude)

/-- A magnitude without significand is zero. -/
theorem eq_zero {x : Magnitude} (hx : x.m = 0) : x = .zero := by
  obtain ⟨m, q, hc⟩ := x
  obtain rfl : m = 0 := hx
  obtain rfl : q = -1074 := by
    rcases hc with ⟨-, hq⟩ | ⟨hm, -⟩
    · exact hq
    · norm_num at hm
  rfl

theorem ratio_pos : 0 < x.ratio.2 := by
  unfold ratio
  split
  · exact Nat.one_pos
  · exact Nat.pow_pos (by norm_num)

/-- The quotient of a magnitude is its significand times a power of two. -/
theorem ratio_div : (x.ratio.1 : ℚ) / x.ratio.2 = x.m * (2 : ℚ) ^ x.q := by
  unfold ratio
  split
  · next hq =>
    simp only [Nat.pow_eq, Nat.cast_mul, Nat.cast_pow, Nat.cast_ofNat, Nat.cast_one, div_one]
    rw [← zpow_natCast, Int.toNat_of_nonneg hq]
  · next hq =>
    simp only [Nat.pow_eq, Nat.cast_pow, Nat.cast_ofNat]
    rw [← zpow_natCast, Int.toNat_of_nonneg (by omega), zpow_neg, div_inv_eq_mul]

theorem ratio_ne_zero (hx : x.m ≠ 0) : x.ratio.1 ≠ 0 := by
  unfold ratio
  split
  · exact Nat.mul_ne_zero hx (Nat.pow_pos (by norm_num)).ne'
  · exact hx

/-- The exponent of the significand that rounding chooses for a magnitude is the one that it has. -/
theorem exponent_of_ratio (hx : x.m ≠ 0) : max (floorLog2 x.ratio.1 x.ratio.2 - 52) (-1074) = x.q := by
  obtain ⟨m, q, hc⟩ := x
  set x : Magnitude := ⟨m, q, hc⟩ with hxdef
  have hpos := Nat.pos_of_ne_zero (x.ratio_ne_zero hx)
  have hdiv : (x.ratio.1 : ℚ) / x.ratio.2 = m * (2 : ℚ) ^ q := x.ratio_div
  obtain ⟨hle, hlt⟩ := floorLog2_spec hpos x.ratio_pos
  rw [hdiv] at hle hlt
  have hq : (0 : ℚ) < 2 ^ q := zpow_pos (by norm_num) q
  rcases hc with ⟨hm, rfl⟩ | ⟨hm, hm', hq1, hq2⟩
  · -- a significand below `2 ^ 53` with the least exponent
    have hup : (m : ℚ) * 2 ^ (-1074 : Int) < 2 ^ (-1021 : Int) := by
      have hm53 : (m : ℚ) < 2 ^ (53 : Int) := by exact_mod_cast hm
      calc (m : ℚ) * 2 ^ (-1074 : Int) < 2 ^ (53 : Int) * 2 ^ (-1074 : Int) := by gcongr
        _ = 2 ^ (-1021 : Int) := by rw [← zpow_add₀ (by norm_num)]; norm_num
    have h₁ : floorLog2 x.ratio.1 x.ratio.2 < -1021 := (zpow_lt_zpow_iff_right₀ (by norm_num)).1 (hle.trans_lt hup)
    show max (floorLog2 x.ratio.1 x.ratio.2 - 52) (-1074) = -1074
    omega
  · have hup : (m : ℚ) * 2 ^ q < 2 ^ (53 + q) := by
      have hm53 : (m : ℚ) < 2 ^ (53 : Int) := by exact_mod_cast hm'
      calc (m : ℚ) * 2 ^ q < 2 ^ (53 : Int) * 2 ^ q := by gcongr
        _ = 2 ^ (53 + q) := by rw [← zpow_add₀ (by norm_num)]
    have hlow : (2 : ℚ) ^ (52 + q) ≤ m * 2 ^ q := by
      have hm52 : (2 : ℚ) ^ (52 : Int) ≤ m := by exact_mod_cast hm
      calc (2 : ℚ) ^ (52 + q) = 2 ^ (52 : Int) * 2 ^ q := by rw [← zpow_add₀ (by norm_num)]
        _ ≤ m * 2 ^ q := by gcongr
    have h₁ : floorLog2 x.ratio.1 x.ratio.2 < 53 + q :=
      (zpow_lt_zpow_iff_right₀ (by norm_num)).1 (hle.trans_lt hup)
    have h₂ : 52 + q < floorLog2 x.ratio.1 x.ratio.2 + 1 :=
      (zpow_lt_zpow_iff_right₀ (by norm_num)).1 (hlow.trans_lt hlt)
    show max (floorLog2 x.ratio.1 x.ratio.2 - 52) (-1074) = q
    omega

end Magnitude

/-- A magnitude that is written out as a quotient is its own nearest number. -/
theorem ofRatio_ratio (negative : Bool) (x : Magnitude) :
    ofRatio negative x.ratio.1 x.ratio.2 = .finite negative x := by
  by_cases hx : x.m = 0
  · rw [Magnitude.eq_zero hx]
    rfl
  · have hround : roundHalfEven (scaleDown 2 x.q x.ratio.1 x.ratio.2).1 (scaleDown 2 x.q x.ratio.1 x.ratio.2).2 =
        x.m := by
      rw [← roundHalfEven_one x.m]
      refine roundHalfEven_congr (scaleDown_pos (by norm_num) x.ratio_pos) Nat.one_pos ?_
      rw [scaleDown_div (by norm_num), x.ratio_div]
      have hq : (2 : ℚ) ^ x.q ≠ 0 := (zpow_pos (by norm_num) x.q).ne'
      push_cast
      field_simp
    have hm : x.m ≠ Nat.pow 2 53 := by
      rcases x.canonical with ⟨hm, -⟩ | ⟨-, hm, -⟩ <;> exact hm.ne
    simp only [ofRatio, x.ratio_ne_zero hx, if_false, x.exponent_of_ratio hx, hround, hm, x.canonical, dif_pos]

end ChatRelay.Binary64
