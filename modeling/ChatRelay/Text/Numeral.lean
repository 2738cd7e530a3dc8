import ChatRelay.Binary64.Basic
import ChatRelay.Host
import ChatRelay.Text.Blank
import ChatRelay.Text.DecimalDigit

/-!
# Numbers in text

- `readInt?`: an integer in decimal digits of any script;
- `readNumber?`: a number with an optional fraction and exponent, or the word for one that is not finite.

Blanks at the ends do not count, a sign may stand in front, and single underscores may stand between digits.
-/

namespace ChatRelay.Text

/-- Whether a character is an information separator, which is blank but cannot stand beside a number. -/
def isSeparator (c : Char) : Bool := 28 ≤ c.toNat && c.toNat ≤ 31

/-- The text with every decimal digit as an ASCII digit and every blank as a space. Of the other characters only those
of ASCII can stand in a number, so the rest become a mark that cannot. -/
def asciiNumeral (cs : List Char) : List Char :=
  cs.map fun c =>
    match decimalDigit? c with
    | some d => Char.ofNat (48 + d)
    | none => if isSeparator c then '?' else if isBlank c then ' ' else if c.toNat < 128 then c else '?'

/-- Whether a character is a digit. -/
def isAsciiDigit (c : Char) : Bool := '0' ≤ c && c ≤ '9'

/-- The text after a character without its underscores, each of which has to stand between two digits. -/
def joinDigits (before : Char) : List Char → Option (List Char)
  | [] => if before = '_' then none else some []
  | c :: cs =>
    if c = '_' then if isAsciiDigit before then joinDigits c cs else none
    else if before = '_' && !isAsciiDigit c then none
    else (joinDigits c cs).map (c :: ·)

/-- The sign in front of a text, and the rest. -/
def takeSign : List Char → Bool × List Char
  | '-' :: cs => (true, cs)
  | '+' :: cs => (false, cs)
  | cs => (false, cs)

/-- The number that ASCII digits spell. -/
def digitsValue (cs : List Char) : Nat := cs.foldl (fun n c => n * 10 + (c.toNat - 48)) 0

/-- The digits and the sign of a numeral. -/
def numeralBody? (s : String) : Option (Bool × List Char) :=
  (joinDigits '+' (strip (asciiNumeral s.toList))).map takeSign

/-- The integer that a text spells, if the host reads one of its length. -/
def readInt? [Host] (s : String) : Option Int := do
  let (negative, ds) ← numeralBody? s
  if ds.isEmpty || !ds.all isAsciiDigit || (Host.digitFault? ds.length).isSome then none
  else
    let n : Int := digitsValue ds
    some (if negative then -n else n)

/-- The exponent at the end of a number. -/
def readPower? : List Char → Option Int
  | [] => some 0
  | e :: cs =>
    let (negative, ds) := takeSign cs
    if (e = 'e' || e = 'E') && !ds.isEmpty && ds.all isAsciiDigit then
      let n : Int := digitsValue ds
      some (if negative then -n else n)
    else none

/-- The number that a text without sign spells in digits. -/
def readDecimal? (negative : Bool) (cs : List Char) : Option Binary64 := do
  let whole := cs.takeWhile isAsciiDigit
  let rest := cs.dropWhile isAsciiDigit
  let (part, rest) :=
    match rest with
    | '.' :: more => (more.takeWhile isAsciiDigit, more.dropWhile isAsciiDigit)
    | _ => ([], rest)
  let power ← readPower? rest
  if whole.isEmpty && part.isEmpty then none
  else some (.ofDecimal negative (digitsValue (whole ++ part)) (power - part.length))

/-- The number that a text spells. -/
def readNumber? (s : String) : Option Binary64 := do
  let (negative, cs) ← numeralBody? s
  match String.ofList (cs.map Char.toLower) with
  | "inf" | "infinity" => some (.infinite negative)
  | "nan" => some .nan
  | _ => readDecimal? negative cs

end ChatRelay.Text
