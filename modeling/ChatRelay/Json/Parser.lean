import ChatRelay.Json.Basic
import ChatRelay.Text.CodeUnit

/-!
# Reading JSON

- `Json.read`: the value that a text holds. Blanks may stand around it and between its parts. Beside the grammar of
  JSON the names of the numbers that are not finite are read; everything else is refused: control characters inside
  strings, leading zeros, a comma before a closing bracket, a byte order mark, and text after the value.

An integer that is longer, and a value that lies deeper than the host allows are refused with errors of their own, and
so is a text that is well formed but spells half a pair of surrogates in a string, since no string here holds one.
-/

namespace ChatRelay.Json

/-- Why a text holds no value that can be read. -/
inductive ReadError
  | malformed
  | integerTooLong
  | tooDeep
  | unpaired
  /-- The bytes of the text are no text. -/
  | undecodable
deriving DecidableEq

/-- A reader of a part: what it read, and the rest of the text. -/
abbrev Read (α : Type) := Except ReadError (α × List Char)

/-- The blanks between the parts of a document. -/
def isSpace (c : Char) : Bool := c = ' ' || c = '\t' || c = '\n' || c = '\r'

/-- The text from its first part on. -/
def skipSpace (cs : List Char) : List Char := cs.dropWhile isSpace

/-! ## Strings -/

/-- The character that a letter after a backslash stands for. -/
def shortEscape? : Char → Option Char
  | '"' => some '"'
  | '\\' => some '\\'
  | '/' => some '/'
  | 'b' => some (Char.ofNat 8)
  | 'f' => some (Char.ofNat 12)
  | 'n' => some '\n'
  | 'r' => some '\r'
  | 't' => some '\t'
  | _ => none

/-- The rest of a string up to its closing quote, after the reversed characters read so far. -/
def readChars (acc : List Char) : List Char → Read String
  | [] => .error .malformed
  | '"' :: rest => .ok (String.ofList acc.reverse, rest)
  | '\\' :: 'u' :: a :: b :: c :: d :: '\\' :: 'u' :: e :: f :: g :: h :: rest =>
    match Text.hexNumber? [a, b, c, d], Text.hexNumber? [e, f, g, h] with
    | some n, some m =>
      if Text.isHighSurrogate n && Text.isLowSurrogate m then readChars (Text.joinSurrogates n m :: acc) rest
      else readChars (Text.charOfUnit n :: acc) ('\\' :: 'u' :: e :: f :: g :: h :: rest)
    | _, _ => .error .malformed
  | '\\' :: 'u' :: a :: b :: c :: d :: rest =>
    match Text.hexNumber? [a, b, c, d] with
    | some n => readChars (Text.charOfUnit n :: acc) rest
    | none => .error .malformed
  | '\\' :: c :: rest =>
    match shortEscape? c with
    | some d => readChars (d :: acc) rest
    | none => .error .malformed
  | c :: rest => if c = '\\' ∨ c.toNat < 32 then .error .malformed else readChars (c :: acc) rest

/-- Whether a number stands for half a pair of surrogates. -/
def isHalf (n : Option Nat) : Bool := n.any fun n => Text.isHighSurrogate n || Text.isLowSurrogate n

/-- Whether an escape in a text spells half a pair of surrogates that has no other half beside it. -/
def spellsHalf : List Char → Bool
  | '\\' :: 'u' :: a :: b :: c :: d :: '\\' :: 'u' :: e :: f :: g :: h :: rest =>
    let n := Text.hexNumber? [a, b, c, d]
    if n.any Text.isHighSurrogate && (Text.hexNumber? [e, f, g, h]).any Text.isLowSurrogate then spellsHalf rest
    else isHalf n || spellsHalf ('\\' :: 'u' :: e :: f :: g :: h :: rest)
  | '\\' :: 'u' :: a :: b :: c :: d :: rest => isHalf (Text.hexNumber? [a, b, c, d]) || spellsHalf rest
  | '\\' :: _ :: rest => spellsHalf rest
  | _ :: rest => spellsHalf rest
  | [] => false

/-! ## Numbers -/

/-- Whether a character is one of the ten ASCII digits. -/
def isDigit (c : Char) : Bool := 48 ≤ c.toNat && c.toNat ≤ 57

/-- The digits at the front of a text, and the rest. -/
def spanDigits (cs : List Char) : List Char × List Char := (cs.takeWhile isDigit, cs.dropWhile isDigit)

/-- The digits of an integer part: a lone zero, or digits that do not begin with zero. -/
def readWhole (cs : List Char) : List Char × List Char :=
  match cs with
  | '0' :: rest => (['0'], rest)
  | _ => spanDigits cs

/-- The digits after a point, if there are any. -/
def readFraction? (cs : List Char) : Option (List Char × List Char) :=
  match cs with
  | '.' :: rest => if (spanDigits rest).1.isEmpty then none else some (spanDigits rest)
  | _ => none

/-- The sign at the front of an exponent, and the rest. -/
def readSign : List Char → Bool × List Char
  | '-' :: rest => (true, rest)
  | '+' :: rest => (false, rest)
  | cs => (false, cs)

/-- The exponent, if there is one. -/
def readExponent? (cs : List Char) : Option (Int × List Char) :=
  match cs with
  | c :: rest =>
    if c = 'e' ∨ c = 'E' then
      let s := readSign rest
      let ds := spanDigits s.2
      if ds.1.isEmpty then none
      else
        let n : Int := Nat.ofDigitChars 10 ds.1 0
        some (if s.1 then -n else n, ds.2)
    else none
  | [] => none

section

variable [Host]

/-- A number from its first digit on. -/
def readUnsigned (negative : Bool) (cs : List Char) : Read Json :=
  let whole := readWhole cs
  if whole.1.isEmpty then .error .malformed
  else
    let fraction := readFraction? whole.2
    let afterFraction := (fraction.map (·.2)).getD whole.2
    let exponent := readExponent? afterFraction
    match fraction, exponent with
    | none, none =>
      if (Host.digitFault? whole.1.length).isSome then .error .integerTooLong
      else
        let n : Int := Nat.ofDigitChars 10 whole.1 0
        .ok (.int (if negative then -n else n), whole.2)
    | _, _ =>
      let decimals := (fraction.map (·.1)).getD []
      let digits := Nat.ofDigitChars 10 (whole.1 ++ decimals) 0
      let power := (exponent.map (·.1)).getD 0
      .ok (.float (Binary64.ofDecimal negative digits (power - decimals.length)),
        (exponent.map (·.2)).getD afterFraction)

/-- A number, also one that is not finite and has a sign. -/
def readNumber : List Char → Read Json
  | '-' :: 'I' :: 'n' :: 'f' :: 'i' :: 'n' :: 'i' :: 't' :: 'y' :: rest => .ok (.float (.infinite true), rest)
  | '-' :: rest => readUnsigned true rest
  | cs => readUnsigned false cs

/-! ## Values -/

mutual

/-- A value at the front of a text, inside as many arrays and objects as given. -/
def readValue : Nat → Nat → List Char → Read Json
  | 0, _, _ => .error .malformed
  | fuel + 1, depth, cs =>
    match cs with
    | '"' :: rest => (readChars [] rest).map fun r => (.str r.1, r.2)
    | '{' :: rest =>
      if (Host.depthFault? (depth + 1)).isSome then .error .tooDeep
      else
        match skipSpace rest with
        | '}' :: rest' => .ok (.obj [], rest')
        | rest' => (readMembers fuel (depth + 1) [] rest').map fun r => (.obj (Assoc.ofList r.1), r.2)
    | '[' :: rest =>
      if (Host.depthFault? (depth + 1)).isSome then .error .tooDeep
      else
        match skipSpace rest with
        | ']' :: rest' => .ok (.arr [], rest')
        | rest' => (readItems fuel (depth + 1) [] rest').map fun r => (.arr r.1, r.2)
    | 'n' :: 'u' :: 'l' :: 'l' :: rest => .ok (.null, rest)
    | 't' :: 'r' :: 'u' :: 'e' :: rest => .ok (.bool true, rest)
    | 'f' :: 'a' :: 'l' :: 's' :: 'e' :: rest => .ok (.bool false, rest)
    | 'N' :: 'a' :: 'N' :: rest => .ok (.float .nan, rest)
    | 'I' :: 'n' :: 'f' :: 'i' :: 'n' :: 'i' :: 't' :: 'y' :: rest => .ok (.float (.infinite false), rest)
    | _ => readNumber cs

/-- The items of an array up to its closing bracket, after the reversed items read so far. -/
def readItems : Nat → Nat → List Json → List Char → Read (List Json)
  | 0, _, _, _ => .error .malformed
  | fuel + 1, depth, acc, cs =>
    match readValue fuel depth cs with
    | .error e => .error e
    | .ok (v, rest) =>
      match skipSpace rest with
      | ',' :: rest' => readItems fuel depth (v :: acc) (skipSpace rest')
      | ']' :: rest' => .ok ((v :: acc).reverse, rest')
      | _ => .error .malformed

/-- The members of an object up to its closing brace, after the reversed members read so far. -/
def readMembers : Nat → Nat → List (String × Json) → List Char → Read (List (String × Json))
  | 0, _, _, _ => .error .malformed
  | fuel + 1, depth, acc, cs =>
    match cs with
    | '"' :: rest =>
      match readChars [] rest with
      | .error e => .error e
      | .ok (k, rest) =>
        match skipSpace rest with
        | ':' :: rest' =>
          match readValue fuel depth (skipSpace rest') with
          | .error e => .error e
          | .ok (v, rest) =>
            match skipSpace rest with
            | ',' :: rest' => readMembers fuel depth ((k, v) :: acc) (skipSpace rest')
            | '}' :: rest' => .ok (((k, v) :: acc).reverse, rest')
            | _ => .error .malformed
        | _ => .error .malformed
    | _ => .error .malformed

end

/-- The value that a text holds. -/
def readText (cs : List Char) : Except ReadError Json :=
  match readValue (2 * cs.length + 2) 0 (skipSpace cs) with
  | .error e => .error e
  | .ok (v, rest) =>
    if !(skipSpace rest).isEmpty then .error .malformed else if spellsHalf cs then .error .unpaired else .ok v

/-- The value that a string holds. -/
def read (s : String) : Except ReadError Json := readText s.toList

end

end ChatRelay.Json
