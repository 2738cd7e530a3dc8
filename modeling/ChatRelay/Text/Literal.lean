import ChatRelay.Text.CodeUnit
import ChatRelay.Text.Printable

/-!
# Quoted literals

- `literal`: a text between quotes, with everything that cannot be shown as it is written as an escape. Single quotes
  are used, double ones only for a text that holds a single quote and no double one;
- `literalOfCodes`, `literalOfBytes`: the same for numbers that need not be characters, and for bytes.
-/

namespace ChatRelay.Text

/-- The lower-case hexadecimal digits of a number, padded with zeros to a width. -/
def hexDigits (width n : Nat) : List Char :=
  let ds := Nat.toDigits 16 n
  List.replicate (width - ds.length) '0' ++ ds

/-- One character of a literal. -/
def literalChar (quote c : Char) : List Char :=
  let n := c.toNat
  if c = quote ∨ c = '\\' then ['\\', c]
  else if c = '\n' then ['\\', 'n']
  else if c = '\r' then ['\\', 'r']
  else if c = '\t' then ['\\', 't']
  else if isPrintable c then [c]
  else if n < 256 then '\\' :: 'x' :: hexDigits 2 n
  else if n < 65536 then '\\' :: 'u' :: hexDigits 4 n
  else '\\' :: 'U' :: hexDigits 8 n

/-- The quote that a text is put between. -/
def literalQuote (cs : List Char) : Char :=
  if '\'' ∈ cs ∧ '"' ∉ cs then '"' else '\''

/-- A text as a quoted literal. -/
def literal (s : String) : String :=
  let q := literalQuote s.toList
  String.ofList (q :: (s.toList.flatMap (literalChar q) ++ [q]))

/-- Numbers as a quoted literal. One that is no character is written as an escape. -/
def literalOfCodes (codes : List Nat) : String :=
  let q := literalQuote (codes.map charOfUnit)
  let one (n : Nat) : List Char :=
    if isHighSurrogate n || isLowSurrogate n then '\\' :: 'u' :: hexDigits 4 n else literalChar q (Char.ofNat n)
  String.ofList (q :: (codes.flatMap one ++ [q]))

/-- One byte of a literal: outside ASCII nothing is shown as it is. -/
def literalByte (quote : Char) (b : UInt8) : List Char :=
  if b < 128 then literalChar quote (Char.ofNat b.toNat) else '\\' :: 'x' :: hexDigits 2 b.toNat

/-- Bytes as a quoted literal with a mark in front. -/
def literalOfBytes (bytes : List UInt8) : String :=
  let q := literalQuote (bytes.map fun b => Char.ofNat b.toNat)
  String.ofList ('b' :: q :: (bytes.flatMap (literalByte q) ++ [q]))

end ChatRelay.Text
