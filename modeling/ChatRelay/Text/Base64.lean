/-!
# Bytes in base 64

- `Base64.decode?`: the bytes that a text spells, six bits a character.

Characters outside the alphabet are skipped. The text ends at its padding or at its end, and a group of characters
that is neither full nor padded is a fault.
-/

namespace ChatRelay.Text.Base64

/-- The six bits of a character. -/
def sixBits? (c : Char) : Option Nat :=
  let n := c.toNat
  if 65 ≤ n ∧ n ≤ 90 then some (n - 65)
  else if 97 ≤ n ∧ n ≤ 122 then some (n - 71)
  else if 48 ≤ n ∧ n ≤ 57 then some (n + 4)
  else if c = '+' then some 62
  else if c = '/' then some 63
  else none

/-- The bytes of a text after the first characters of a group, with the padding seen since: how many characters the
group has, the bits of the last one that no byte holds yet, and how many padding characters follow it. -/
def decodeFrom (length bits pads : Nat) : List Char → Option (List UInt8)
  | [] => if length = 0 then some [] else none
  | c :: cs =>
    if c = '=' then
      if 2 ≤ length then if 4 ≤ length + pads + 1 then some [] else decodeFrom length bits (pads + 1) cs
      else decodeFrom length bits pads cs
    else
      match sixBits? c with
      | none => decodeFrom length bits pads cs
      | some v =>
        match length with
        | 0 => decodeFrom 1 v 0 cs
        | 1 => (decodeFrom 2 (v % 16) 0 cs).map ((bits * 4 + v / 16).toUInt8 :: ·)
        | 2 => (decodeFrom 3 (v % 4) 0 cs).map ((bits * 16 + v / 4).toUInt8 :: ·)
        | _ => (decodeFrom 0 0 0 cs).map ((bits * 64 + v).toUInt8 :: ·)

/-- The bytes that a text spells. -/
def decode? (cs : List Char) : Option (List UInt8) := decodeFrom 0 0 0 cs

end ChatRelay.Text.Base64
