/-!
# Binary floating-point numbers of 64 bits

- `Binary64`: the numbers of the format, a finite one as `m · 2 ^ q` with its unique canonical `m` and `q`;
- `Binary64.ofRatio`: the number nearest to a quotient, ties to the even significand;
- `Binary64.ofDecimal`, `Binary64.ofInt?`, `Binary64.truncate?`: conversions from decimals and between integers and
  numbers.
-/

namespace ChatRelay

namespace Binary64

/-- A significand and an exponent that the format holds: the significand is full, or the exponent is least. -/
def Canonical (m : Nat) (q : Int) : Prop :=
  (m < Nat.pow 2 53 ∧ q = -1074) ∨ (Nat.pow 2 52 ≤ m ∧ m < Nat.pow 2 53 ∧ -1074 < q ∧ q ≤ 971)

instance (m : Nat) (q : Int) : Decidable (Canonical m q) := by unfold Canonical; infer_instance

/-- The absolute value `m · 2 ^ q` of a finite number. -/
structure Magnitude where
  m : Nat
  q : Int
  canonical : Canonical m q
deriving DecidableEq

end Binary64

/-- A number of the 64-bit binary format. -/
inductive Binary64
  | nan
  | infinite (negative : Bool)
  | finite (negative : Bool) (magnitude : Binary64.Magnitude)
deriving DecidableEq

namespace Binary64

/-- The magnitude of zero. -/
def Magnitude.zero : Magnitude := ⟨0, -1074, by decide⟩

/-- Zero of either sign. -/
def zero (negative : Bool) : Binary64 := .finite negative .zero

instance : Inhabited Binary64 := ⟨zero false⟩

/-- The value of a magnitude as a quotient of natural numbers. -/
def Magnitude.ratio (x : Magnitude) : Nat × Nat :=
  if 0 ≤ x.q then (x.m * Nat.pow 2 x.q.toNat, 1) else (x.m, Nat.pow 2 (-x.q).toNat)

/-! ## Rounding -/

/-- The quotient divided by `base ^ e`. -/
def scaleDown (base : Nat) (e : Int) (num den : Nat) : Nat × Nat :=
  if 0 ≤ e then (num, den * Nat.pow base e.toNat) else (num * Nat.pow base (-e).toNat, den)

/-- The natural number nearest to a quotient, a half going to the even neighbour. -/
def roundHalfEven (num den : Nat) : Nat :=
  let n := num / den
  let r := num % den
  if 2 * r < den then n else if 2 * r = den then n + n % 2 else n + 1

/-- The greatest `e` with `2 ^ e ≤ num / den`, for positive `num` and `den`. -/
def floorLog2 (num den : Nat) : Int :=
  let e : Int := (num.log2 : Int) - den.log2
  let s := scaleDown 2 e num den
  if s.2 ≤ s.1 then e else e - 1

/-- The number nearest to a quotient, ties to the even significand, and infinite when it is too large. -/
def ofRatio (negative : Bool) (num den : Nat) : Binary64 :=
  if num = 0 then zero negative
  else
    let q := max (floorLog2 num den - 52) (-1074)
    let s := scaleDown 2 q num den
    let m := roundHalfEven s.1 s.2
    let c : Nat × Int := if m = Nat.pow 2 53 then (Nat.pow 2 52, q + 1) else (m, q)
    if h : Canonical c.1 c.2 then .finite negative ⟨c.1, c.2, h⟩ else .infinite negative

/-- The number of decimal digits. -/
def digitCount (n : Nat) : Nat := (Nat.toDigits 10 n).length

/-- The number nearest to `digits · 10 ^ exponent`. Decimals beyond the range of the format are decided by their
order of magnitude alone. -/
def ofDecimal (negative : Bool) (digits : Nat) (exponent : Int) : Binary64 :=
  if digits = 0 then zero negative
  else
    let top := (digitCount digits : Int) + exponent
    if 400 < top then .infinite negative
    else if top < -400 then zero negative
    else
      let s := scaleDown 10 (-exponent) digits 1
      ofRatio negative s.1 s.2

/-! ## Integers -/

/-- The number nearest to an integer, if there is a finite one. -/
def ofInt? (n : Int) : Option Binary64 :=
  match ofRatio (n < 0) n.natAbs 1 with
  | .infinite _ => none
  | x => some x

/-- The integer part of a finite number, toward zero. -/
def truncate? : Binary64 → Option Int
  | .finite negative x =>
    let n : Int := (x.ratio.1 / x.ratio.2 : Nat)
    some (if negative then -n else n)
  | _ => none

/-- The integer that a number equals, if there is one. -/
def toInt? : Binary64 → Option Int
  | .finite negative x =>
    if x.ratio.1 % x.ratio.2 = 0 then truncate? (.finite negative x) else none
  | _ => none

/-- Whether a number is greater than zero. -/
def isPositive : Binary64 → Bool
  | .nan => false
  | .infinite negative => !negative
  | .finite negative x => !negative && x.m != 0

/-- Whether a number is zero, of either sign. -/
def isZero : Binary64 → Bool
  | .finite _ x => x.m == 0
  | _ => false

/-- The number with the other sign. -/
def neg : Binary64 → Binary64
  | .nan => .nan
  | .infinite negative => .infinite !negative
  | .finite negative x => .finite (!negative) x

end Binary64

end ChatRelay
