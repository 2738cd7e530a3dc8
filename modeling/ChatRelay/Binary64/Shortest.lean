import ChatRelay.Binary64.Basic

/-!
# Shortest decimals

- `Binary64.Magnitude.shortest`: the decimal with the fewest digits that reads back as the number, and of those the
  nearest one, a tie going to the even last digit;
- `Binary64.render`: the number in text, positional for decimal exponents from -4 to 15 and always with a fraction or
  an exponent.
-/

namespace ChatRelay.Binary64

/-- The greatest `k` with `10 ^ k ≤ num / den`, for positive `num` and `den`. -/
def floorLog10 (num den : Nat) : Int :=
  let k : Int := (digitCount num : Int) - digitCount den
  let s := scaleDown 10 k num den
  if s.2 ≤ s.1 then k else k - 1

/-- The two natural numbers around a quotient, the nearer first. -/
def neighbours (num den : Nat) : List Nat :=
  let n := num / den
  let r := num % den
  if 2 * r < den ∨ (2 * r = den ∧ n % 2 = 0) then [n, n + 1] else [n + 1, n]

/-- The decimal without its trailing zeros. -/
def trimZeros : Nat → Nat → Int → Nat × Int
  | 0, digits, exponent => (digits, exponent)
  | fuel + 1, digits, exponent =>
    if digits ≠ 0 ∧ digits % 10 = 0 then trimZeros fuel (digits / 10) (exponent + 1) else (digits, exponent)

namespace Magnitude

/-- The decimal on the grid `10 ^ exponent` that reads back as the number, if one of its neighbours does. -/
def onGrid? (x : Magnitude) (exponent : Int) : Option (Nat × Int) :=
  let s := scaleDown 10 exponent x.ratio.1 x.ratio.2
  ((neighbours s.1 s.2).find? fun d => ofDecimal false d exponent = .finite false x).map (·, exponent)

/-- The number written out exactly. -/
def exactDecimal (x : Magnitude) : Nat × Int :=
  if 0 ≤ x.q then (x.m * Nat.pow 2 x.q.toNat, 0) else (x.m * Nat.pow 5 (-x.q).toNat, x.q)

/-- The first grid, from one digit to seventeen, that holds a decimal reading back as the number. -/
def shortest (x : Magnitude) : Nat × Int :=
  let top := floorLog10 x.ratio.1 x.ratio.2
  let d := ((List.range 17).findSome? fun (n : Nat) => x.onGrid? (top - n)).getD x.exactDecimal
  trimZeros (digitCount d.1) d.1 d.2

end Magnitude

/-! ## Text -/

/-- The exponent of scientific notation: a sign and at least two digits. -/
def renderExponent (e : Int) : List Char :=
  let ds := Nat.toDigits 10 e.natAbs
  'e' :: (if e < 0 then '-' else '+') :: (if ds.length < 2 then '0' :: ds else ds)

/-- The decimal `digits · 10 ^ exponent` in text. -/
def renderDecimal (digits : Nat) (exponent : Int) : List Char :=
  let ds := Nat.toDigits 10 digits
  let top : Int := ds.length - 1 + exponent
  if 0 ≤ top ∧ top < 16 then
    if 0 ≤ exponent then ds ++ List.replicate exponent.toNat '0' ++ ['.', '0']
    else ds.take (top + 1).toNat ++ '.' :: ds.drop (top + 1).toNat
  else if -4 ≤ top ∧ top < 0 then '0' :: '.' :: (List.replicate (-top - 1).toNat '0' ++ ds)
  else
    match ds with
    | [] => []
    | [d] => d :: renderExponent top
    | d :: more => d :: '.' :: more ++ renderExponent top

/-- How the numbers that are not finite are spelled. -/
structure Spelling where
  nan : String
  infinity : String

/-- The text of a number. -/
def render (names : Spelling) : Binary64 → List Char
  | .nan => names.nan.toList
  | .infinite negative => (if negative then ['-'] else []) ++ names.infinity.toList
  | .finite negative x =>
    (if negative then ['-'] else []) ++
      (if x.m = 0 then ['0', '.', '0'] else renderDecimal x.shortest.1 x.shortest.2)

end ChatRelay.Binary64
