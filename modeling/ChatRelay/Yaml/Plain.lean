import ChatRelay.Text.Numeral
import ChatRelay.Yaml.Date
import ChatRelay.Yaml.Tag

/-!
# What plain text means

- `Plain.tag`: whether plain text spells null, a boolean, an integer, a float or a date, by its form alone;
- `Plain.timestamp?`: the parts of a date.

Integers are decimal, binary, octal after a leading zero, hexadecimal or in base sixty; floats need a point.
-/

namespace ChatRelay.Yaml.Plain

/-! ## Forms -/

/-- Whether a character is a digit or an underscore. -/
def isDigitOrBar (c : Char) : Bool := c.isDigit || c = '_'

/-- The text after an optional sign. -/
def unsigned (cs : List Char) : List Char := (Text.takeSign cs).2

/-- Whether a text begins with a digit and has only digits and underscores. -/
def isWhole (cs : List Char) : Bool := (cs.head?.map Char.isDigit).getD false && cs.all isDigitOrBar

/-- Whether a text is a group of base sixty. -/
def isSexagesimal : List Char → Bool
  | [d] => d.isDigit
  | [t, d] => '0' ≤ t && t ≤ '5' && d.isDigit
  | _ => false

/-- The parts of a text between colons. -/
def splitColons (part : List Char) : List Char → List (List Char)
  | [] => [part.reverse]
  | c :: cs => if c = ':' then part.reverse :: splitColons [] cs else splitColons (c :: part) cs

/-- Whether a text is a number followed by groups of base sixty. -/
def isBaseSixty (first : List Char → Bool) (cs : List Char) : Bool :=
  match splitColons [] cs with
  | whole :: g :: groups => first whole && (g :: groups).all isSexagesimal
  | _ => false

/-- Whether a text without sign is an integer. -/
def isUnsignedInt : List Char → Bool
  | ['0'] => true
  | '0' :: 'b' :: cs => !cs.isEmpty && cs.all fun c => c = '0' || c = '1' || c = '_'
  | '0' :: 'x' :: cs => !cs.isEmpty && cs.all fun c => (Text.isAsciiDigit c || ('a' ≤ c && c ≤ 'f') ||
      ('A' ≤ c && c ≤ 'F') || c = '_')
  | '0' :: cs => cs.all fun c => ('0' ≤ c && c ≤ '7') || c = '_'
  | cs => isWhole cs || isBaseSixty isWhole cs

/-- Whether a text is an integer. -/
def isInt (cs : List Char) : Bool := isUnsignedInt (unsigned cs)

/-- Whether a text is nothing or an exponent with a sign. -/
def isExponent : List Char → Bool
  | [] => true
  | e :: s :: ds => (e = 'e' || e = 'E') && (s = '-' || s = '+') && !ds.isEmpty && ds.all Char.isDigit
  | _ => false

/-- The part of a text before a point, and the part after it. -/
def splitPoint (cs : List Char) : Option (List Char × List Char) :=
  match cs.dropWhile (· ≠ '.') with
  | _ :: rest => some (cs.takeWhile (· ≠ '.'), rest)
  | [] => none

/-- Whether what follows the point of a float is a fraction and an exponent. -/
def isFraction (cs : List Char) : Bool := isExponent (cs.dropWhile isDigitOrBar)

/-- Whether a text without sign is a float. -/
def isUnsignedFloat (cs : List Char) : Bool :=
  match splitPoint cs with
  | some (whole, rest) => (isWhole whole && isFraction rest) || (isBaseSixty isWhole whole && rest.all isDigitOrBar)
  | none => false

/-- Whether a text is a point with digits after it. -/
def isBareFraction : List Char → Bool
  | '.' :: d :: cs => d.isDigit && isFraction cs
  | _ => false

/-- The words for the float that is infinite. -/
def infinityWords : List String := [".inf", ".Inf", ".INF"]

/-- The words for the float that is no number. -/
def nanWords : List String := [".nan", ".NaN", ".NAN"]

/-- Whether a text is a float. -/
def isFloat (cs : List Char) : Bool :=
  isUnsignedFloat (unsigned cs) || isBareFraction cs || infinityWords.contains (String.ofList (unsigned cs)) ||
    nanWords.contains (String.ofList cs)

/-- The words for null. -/
def nullWords : List String := ["", "~", "null", "Null", "NULL"]

/-- The words for true and for false. -/
def trueWords : List String := ["yes", "Yes", "YES", "true", "True", "TRUE", "on", "On", "ON"]

/-- The words for false. -/
def falseWords : List String := ["no", "No", "NO", "false", "False", "FALSE", "off", "Off", "OFF"]

/-! ## Dates -/

/-- A number of digits at the front of a text, at least and at most as many as given, and the rest. -/
def digits? (least most : Nat) (cs : List Char) : Option (Nat × List Char) :=
  let ds := (cs.take most).takeWhile Char.isDigit
  if ds.length < least then none else some (Nat.ofDigitChars 10 ds 0, cs.drop ds.length)

/-- The text after a character. -/
def after? (c : Char) : List Char → Option (List Char)
  | d :: cs => if d = c then some cs else none
  | [] => none

/-- The distance from universal time at the end of a time, none when nothing is said. -/
def zone? (cs : List Char) : Option (Option Int) :=
  match cs.dropWhile fun c => c = ' ' || c = '\t' with
  | [] => if cs.isEmpty then some none else none
  | ['Z'] => some (some 0)
  | sign :: rest => do
    if sign ≠ '-' && sign ≠ '+' then none
    else
      let (hours, rest) ← digits? 1 2 rest
      let (minutes, rest) ← match rest with
        | [] => some (0, [])
        | rest => do digits? 2 2 (← after? ':' rest)
      let z : Int := hours * 60 + minutes
      if rest.isEmpty then some (some (if sign = '-' then -z else z)) else none

/-- The first six digits of a fraction of a second, as millionths. -/
def microseconds (ds : List Char) : Nat :=
  let six := ds.take 6
  Nat.ofDigitChars 10 six 0 * Nat.pow 10 (6 - six.length)

/-- The fraction of a second, and the rest. -/
def secondFraction (cs : List Char) : Nat × List Char :=
  match cs with
  | '.' :: rest => (microseconds (rest.takeWhile Char.isDigit), rest.dropWhile Char.isDigit)
  | cs => (0, cs)

/-- The time of day after a date, and what is known of its zone. -/
def timeOfDay? (date : Date) (cs : List Char) : Option Time := do
  let rest ← match cs with
    | 'T' :: rest => some rest
    | 't' :: rest => some rest
    | c :: rest => if c = ' ' || c = '\t' then some (rest.dropWhile fun c => c = ' ' || c = '\t') else none
    | [] => none
  let (hour, rest) ← digits? 1 2 rest
  let (minute, rest) ← digits? 2 2 (← after? ':' rest)
  let (second, rest) ← digits? 2 2 (← after? ':' rest)
  let (fraction, rest) := secondFraction rest
  let zone ← zone? rest
  return ⟨date, hour, minute, second, fraction, zone⟩

/-- A date, with a time of day or without. -/
inductive Timestamp
  | date (d : Date)
  | time (t : Time)

/-- The date that a text begins with, and the rest. -/
def datePart? (least : Nat) (cs : List Char) : Option (Date × List Char) := do
  let (year, rest) ← digits? 4 4 cs
  let (month, rest) ← digits? least 2 (← after? '-' rest)
  let (day, rest) ← digits? least 2 (← after? '-' rest)
  return (⟨year, month, day⟩, rest)

/-- The date or time that a text spells, which need not be one of the calendar. A date that stands alone has as many
digits for the month and the day as given, or two. -/
def timestamp? (least : Nat) (cs : List Char) : Option Timestamp :=
  match datePart? least cs with
  | some (d, []) => some (.date d)
  | _ =>
    match datePart? 1 cs with
    | some (d, rest) => (timeOfDay? d rest).map .time
    | none => none

/-! ## Tags -/

/-- The text without a line feed at its end. -/
def withoutLineFeed (cs : List Char) : List Char := if cs.getLast? = some '\n' then cs.dropLast else cs

/-- The marks of tags, anchors and aliases, which are no text when they stand alone. -/
def markWords : List String := ["!", "&", "*"]

/-- The tag of a text of one line. -/
def tagOfLine (s : String) : Tag :=
  let cs := s.toList
  if nullWords.contains s then .null
  else if trueWords.contains s || falseWords.contains s then .bool
  else if isFloat cs then .float
  else if isInt cs then .int
  else if s = "<<" then .merge
  else if (timestamp? 2 cs).isSome then .timestamp
  else if s = "=" then .default
  else if markWords.contains s then .other
  else .str

/-- The tag that a text has by its form. A line feed at its end does not count, unless it is all there is. -/
def tag (s : String) : Tag := if s = "\n" then .str else tagOfLine (String.ofList (withoutLineFeed s.toList))

end ChatRelay.Yaml.Plain
