import ChatRelay.Binary64.Basic

/-!
# Sums and products

- `Binary64.add`, `Binary64.mul`: the sum and the product of two numbers, each rounded to the nearest number.

Opposite infinities have no sum, and an infinity has no product with zero. A sum of zero is positive unless both parts
are negative zeros; a product has the sign of its factors.
-/

namespace ChatRelay.Binary64

/-- The value of a finite number as a quotient of an integer and a natural number. -/
def quotient (negative : Bool) (x : Magnitude) : Int × Nat :=
  (if negative then -(x.ratio.1 : Int) else x.ratio.1, x.ratio.2)

/-- The sum of two numbers. -/
def add : Binary64 → Binary64 → Binary64
  | .nan, _ | _, .nan => .nan
  | .infinite s, .infinite t => if s = t then .infinite s else .nan
  | .infinite s, _ => .infinite s
  | _, .infinite t => .infinite t
  | .finite s x, .finite t y =>
    let a := quotient s x
    let b := quotient t y
    let num := a.1 * b.2 + b.1 * a.2
    if num = 0 then zero (s && t && x.m = 0 && y.m = 0) else ofRatio (num < 0) num.natAbs (a.2 * b.2)

/-- The product of two numbers. -/
def mul : Binary64 → Binary64 → Binary64
  | .nan, _ | _, .nan => .nan
  | .infinite s, .infinite t => .infinite (s != t)
  | .infinite s, .finite t y => if y.m = 0 then .nan else .infinite (s != t)
  | .finite s x, .infinite t => if x.m = 0 then .nan else .infinite (s != t)
  | .finite s x, .finite t y => ofRatio (s != t) (x.ratio.1 * y.ratio.1) (x.ratio.2 * y.ratio.2)

end ChatRelay.Binary64
