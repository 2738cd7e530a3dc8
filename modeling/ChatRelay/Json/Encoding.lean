import ChatRelay.Json.Parser

/-!
# JSON in bytes

- `Json.Encoding.of`: how bytes that begin a JSON text are encoded, told by where zeros stand among the first four;
- `Json.readBytes`: the value that bytes hold, in whichever encoding.

Half a pair of surrogates is let through where an encoding can spell it, as in an escape.
-/

namespace ChatRelay.Json

/-- How the numbers of characters are spelled in bytes. -/
inductive Encoding
  | utf8
  | utf16 (bigEndian : Bool)
  | utf32 (bigEndian : Bool)
deriving DecidableEq

namespace Encoding

/-- How bytes are encoded. The first two characters of a JSON text are ASCII. -/
def of : List UInt8 → Encoding
  | 0 :: 0 :: _ :: _ :: _ => .utf32 true
  | 0 :: _ :: _ :: _ :: _ => .utf16 true
  | _ :: 0 :: 0 :: 0 :: _ => .utf32 false
  | _ :: 0 :: _ :: _ :: _ => .utf16 false
  | [0, _] => .utf16 true
  | [_, 0] => .utf16 false
  | _ => .utf8

/-- The number that bytes spell, the first byte being the highest one. -/
def number (bs : List UInt8) : Nat := bs.foldl (fun n b => n * 256 + b.toNat) 0

/-- Bytes in groups of a length, unless some are left over. -/
def groups? (length : Nat) : Nat → List UInt8 → Option (List (List UInt8))
  | _, [] => some []
  | 0, _ => none
  | fuel + 1, bs =>
    if bs.length < length then none else (groups? length fuel (bs.drop length)).map (bs.take length :: ·)

/-- The numbers that groups of bytes spell in an order. -/
def numbers? (length : Nat) (bigEndian : Bool) (bs : List UInt8) : Option (List Nat) :=
  (groups? length bs.length bs).map fun gs => gs.map fun g => number (if bigEndian then g else g.reverse)

/-- The text that bytes hold in an encoding. -/
def decode? (bs : List UInt8) : Encoding → Option (List Char)
  | .utf8 => (String.fromUTF8? ⟨bs.toArray⟩).map String.toList
  | .utf16 bigEndian => (numbers? 2 bigEndian bs).map Text.joinCodes
  | .utf32 bigEndian => do
    let codes ← numbers? 4 bigEndian bs
    if codes.all (· < 0x110000) then some (codes.map Text.charOfUnit) else none

end Encoding

/-- The text without a byte order mark, which only one of the encodings has. -/
def withoutMark (e : Encoding) : List Char → List Char
  | c :: cs => if e = .utf8 && c.toNat = 0xFEFF then cs else c :: cs
  | [] => []

/-- The value that bytes hold. -/
def readBytes [Host] (bs : List UInt8) : Except ReadError Json :=
  let e := Encoding.of bs
  match e.decode? bs with
  | some cs => readText (withoutMark e cs)
  | none => .error .undecodable

end ChatRelay.Json
