import ChatRelay.Binary64.Arithmetic
import ChatRelay.Fault
import ChatRelay.Text.Base64
import ChatRelay.Yaml.Plain
import ChatRelay.Yaml.Value

/-!
# The value of a text under a tag

- `Tagged.value`: the value of a text that is meant to be what a tag says, whatever the form of the text.

Integers are decimal, binary, octal after a leading zero, hexadecimal or in base sixty, and so are floats in decimals
and base sixty. Underscores do not count. A text that lacks the form is a fault, which tells how the reading ended.
-/

namespace ChatRelay.Yaml.Tagged

variable [Host]

/-- A value that a text may not have. -/
def required {α : Type} : Option α → Except Fault α
  | some a => .ok a
  | none => .error .badValue

/-- The characters of a text without underscores. -/
def withoutBars (s : String) : List Char := s.toList.filter (· ≠ '_')

/-- The parts of a text between colons, as texts. -/
def groups (cs : List Char) : List String := (Plain.splitColons [] cs).map String.ofList

/-- The boolean that a word spells, in any case. -/
def bool (s : String) : Except Fault Bool :=
  let w := String.ofList (s.toList.map Char.toLower)
  if ["yes", "true", "on"].contains w then .ok true
  else if ["no", "false", "off"].contains w then .ok false
  else .error .unknownWord

/-! ## Integers -/

/-- The value of a digit. -/
def digitValue? (base : Nat) (c : Char) : Option Nat :=
  let n :=
    if c.isDigit then c.toNat - 48
    else if 'a' ≤ c ∧ c ≤ 'z' then c.toNat - 87
    else if 'A' ≤ c ∧ c ≤ 'Z' then c.toNat - 55
    else base
  if n < base then some n else none

/-- The number that digits of a base spell. -/
def natOfDigits? (base : Nat) (cs : List Char) : Option Nat :=
  if cs.isEmpty then none else cs.foldlM (fun n c => (digitValue? base c).map (n * base + ·)) 0

/-- The digits after a zero and the letter of a base, which may stand in front. -/
def afterLetter (letter : Char) : List Char → List Char
  | '0' :: c :: cs => if c.toLower = letter then cs else '0' :: c :: cs
  | cs => cs

/-- The integer that a text spells in a base that has a letter, between blanks and with a sign. -/
def radix? (base : Nat) (letter : Char) (cs : List Char) : Option Int := do
  let (negative, ds) := Text.takeSign (Text.strip (Text.asciiNumeral cs))
  let n : Int ← (natOfDigits? base (afterLetter letter ds)).map Int.ofNat
  return if negative then -n else n

/-- The integer that groups of base sixty spell. -/
def sixty? (gs : List String) : Option Int := gs.foldlM (fun n g => (Text.readInt? g).map (n * 60 + ·)) 0

/-- The integer that a text without its sign spells. -/
def magnitude : List Char → Except Fault Int
  | [] => .error .emptyText
  | ['0'] => .ok 0
  | '0' :: 'b' :: cs => required (radix? 2 'b' cs)
  | '0' :: 'x' :: cs => required (radix? 16 'x' cs)
  | '0' :: cs => required (radix? 8 'o' ('0' :: cs))
  | cs => required (sixty? (groups cs))

/-- The integer that a text spells. -/
def int (s : String) : Except Fault Int :=
  match withoutBars s with
  | [] => .error .emptyText
  | cs =>
    let (negative, cs) := Text.takeSign cs
    (magnitude cs).map fun n => if negative then -n else n

/-! ## Floats -/

/-- The number that groups of base sixty spell, last group first, from the given power of sixty on. -/
def sumSixty : Nat → Binary64 → List Binary64 → Except Fault Binary64
  | _, acc, [] => .ok acc
  | base, acc, x :: rest =>
    match Binary64.ofInt? base with
    | some b => sumSixty (base * 60) (acc.add (x.mul b)) rest
    | none => .error .tooLarge

/-- The float that a text without its sign spells. -/
def magnitudeFloat (cs : List Char) : Except Fault Binary64 :=
  if cs = ".inf".toList then .ok (.infinite false)
  else
    match groups cs with
    | [g] => required (Text.readNumber? g)
    | gs => do sumSixty 1 (.zero false) (← required (gs.mapM Text.readNumber?)).reverse

/-- The float that a text of a node spells. The word for what is no number always spells the same. -/
def float (node : Nat) (s : String) : Except Fault Value :=
  match (withoutBars s).map Char.toLower with
  | [] => .error .emptyText
  | cs =>
    let (negative, cs) := Text.takeSign cs
    if cs = ".nan".toList then .ok (.float .nan)
    else
      (magnitudeFloat cs).map fun x =>
        if x = .nan then .nan node else .float (if negative then x.neg else x)

/-! ## Dates and bytes -/

/-- The value of a date or time, if the calendar and the clock have it. -/
def calendarValue? : Plain.Timestamp → Option Value
  | .date d => if d.isOnCalendar then some (.date d) else none
  | .time t =>
    if t.date.isOnCalendar && t.hour < 24 && t.minute < 60 && t.second < 60 &&
        (t.zone.map fun z => decide (z.natAbs < 1440)).getD true then some (.time t)
    else none

/-- The date or time that a text spells. -/
def timestamp (s : String) : Except Fault Value :=
  match Plain.timestamp? 1 (Plain.withoutLineFeed s.toList) with
  | some t => required (calendarValue? t)
  | none => .error .noFields

/-- The bytes that a text spells. -/
def binary (s : String) : Except Fault Value :=
  if s.toList.all fun c => c.toNat < 128 then required ((Text.Base64.decode? s.toList).map .bytes)
  else .error .badValue

/-! ## All kinds -/

/-- The value of a text of characters. -/
def textValue (node : Nat) (s : String) : Tag → Except Fault Value
  | .null => .ok .null
  | .bool => (bool s).map .bool
  | .int => (int s).map .int
  | .float => float node s
  | .binary => binary s
  | .timestamp => timestamp s
  | .str => .ok (.str s)
  | _ => .error .badValue

/-- The value of a text with halves of characters in it, which no number and no word has. -/
def codesValue (codes : List Nat) : Tag → Except Fault Value
  | .null => .ok .null
  | .bool => .error .unknownWord
  | .timestamp => .error .noFields
  | .str => .ok (.codes codes)
  | _ => .error .badValue

/-- The value of a text of a node. -/
def value (node : Nat) (tag : Tag) (codes : List Nat) : Except Fault Value :=
  match Text.ofCodes? codes with
  | some s => textValue node s tag
  | none => codesValue codes tag

end ChatRelay.Yaml.Tagged
