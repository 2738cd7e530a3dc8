/-!
# Characters by number

- `Text.hexNumber?`: the number that hexadecimal digits spell;
- `Text.joinSurrogates`: the character that two numbers stand for together, a high surrogate and a low one;
- `Text.charOfUnit`: the character of a number, with a replacement for half a pair;
- `Text.ofCodes?`, `Text.joinPairs?`, `Text.joinCodes`: the text of numbers that are all characters, of numbers among
  which there are pairs, and of numbers among which there may be anything.
-/

namespace ChatRelay.Text

/-- The value of a hexadecimal digit. -/
def hexDigit? (c : Char) : Option Nat :=
  let n := c.toNat
  if 48 ≤ n ∧ n ≤ 57 then some (n - 48)
  else if 65 ≤ n ∧ n ≤ 70 then some (n - 55)
  else if 97 ≤ n ∧ n ≤ 102 then some (n - 87)
  else none

/-- The number that hexadecimal digits spell. -/
def hexNumber? (cs : List Char) : Option Nat :=
  cs.foldlM (fun n c => (hexDigit? c).map (n * 16 + ·)) 0

/-- Whether a number is the first half of a pair of surrogates. -/
def isHighSurrogate (n : Nat) : Bool := 55296 ≤ n && n < 56320

/-- Whether a number is the second half of a pair of surrogates. -/
def isLowSurrogate (n : Nat) : Bool := 56320 ≤ n && n < 57344

/-- The character that a pair of surrogates spells. -/
def joinSurrogates (high low : Nat) : Char := Char.ofNat (65536 + (high - 55296) * 1024 + (low - 56320))

/-- The character of a number; half a pair stands for the replacement character. -/
def charOfUnit (n : Nat) : Char :=
  if isHighSurrogate n || isLowSurrogate n then Char.ofNat 65533 else Char.ofNat n

/-- The text of numbers, if each is a character. -/
def ofCodes? (codes : List Nat) : Option String :=
  if codes.any fun n => isHighSurrogate n || isLowSurrogate n then none
  else some (String.ofList (codes.map Char.ofNat))

/-- The characters of numbers, of which two halves of a pair that follow each other are one, unless there is a half
without the other one. -/
def joinPairs? : List Nat → Option (List Char)
  | [] => some []
  | [n] => if isHighSurrogate n || isLowSurrogate n then none else some [Char.ofNat n]
  | n :: m :: rest =>
    if isHighSurrogate n && isLowSurrogate m then (joinPairs? rest).map (joinSurrogates n m :: ·)
    else if isHighSurrogate n || isLowSurrogate n then none
    else (joinPairs? (m :: rest)).map (Char.ofNat n :: ·)

/-- The characters of numbers: two halves of a pair that follow each other are one. -/
def joinCodes : List Nat → List Char
  | [] => []
  | [n] => [charOfUnit n]
  | n :: m :: rest =>
    if isHighSurrogate n && isLowSurrogate m then joinSurrogates n m :: joinCodes rest
    else charOfUnit n :: joinCodes (m :: rest)

end ChatRelay.Text
