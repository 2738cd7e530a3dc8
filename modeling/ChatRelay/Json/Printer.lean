import ChatRelay.Binary64.Shortest
import ChatRelay.Json.Basic
import ChatRelay.Text.Literal

/-!
# Writing JSON

- `Json.compact`: a value on one line without spaces;
- `Json.indented`: a value with every member and item on a line of its own, two spaces for each level;
- `Json.encode`: the same if the host turns the value into text, else the fault that is met first;
- `Json.quoteAscii`: a text as a JSON string of ASCII characters.

Strings keep every character from the space on; the controls below it, the quote and the backslash are escaped.
-/

namespace ChatRelay.Json

/-- The escape of a character that JSON does not allow in a string, with the short forms where there is one. -/
def escapeControl (c : Char) : List Char :=
  match c.toNat with
  | 8 => ['\\', 'b']
  | 9 => ['\\', 't']
  | 10 => ['\\', 'n']
  | 12 => ['\\', 'f']
  | 13 => ['\\', 'r']
  | n => '\\' :: 'u' :: Text.hexDigits 4 n

/-- A character inside a string. -/
def escapeChar (c : Char) : List Char :=
  if c = '"' ∨ c = '\\' then ['\\', c] else if c.toNat < 32 then escapeControl c else [c]

/-- A text between quotes. -/
def quote (s : String) : List Char := '"' :: (s.toList.flatMap escapeChar ++ ['"'])

/-- A character inside a string of ASCII characters: beyond the basic plane it is a pair of surrogates. -/
def escapeCharAscii (c : Char) : List Char :=
  let n := c.toNat
  if n < 127 then escapeChar c
  else if n < 65536 then '\\' :: 'u' :: Text.hexDigits 4 n
  else
    '\\' :: 'u' :: Text.hexDigits 4 (55296 + (n - 65536) / 1024) ++
      '\\' :: 'u' :: Text.hexDigits 4 (56320 + (n - 65536) % 1024)

/-- A text between quotes, in ASCII characters. -/
def quoteAscii (s : String) : List Char := '"' :: (s.toList.flatMap escapeCharAscii ++ ['"'])

/-- How the numbers that are not finite are written. -/
def spelling : Binary64.Spelling := ⟨"NaN", "Infinity"⟩

/-- An integer in decimal digits. -/
def writeInt (n : Int) : List Char :=
  if n < 0 then '-' :: Nat.toDigits 10 n.natAbs else Nat.toDigits 10 n.natAbs

/-- Where the parts of an array or an object stand. -/
inductive Layout
  | compact
  | indented

/-- What stands before a part at a depth. -/
def Layout.lead : Layout → Nat → List Char
  | .compact, _ => []
  | .indented, depth => '\n' :: List.replicate (2 * depth) ' '

/-- What stands between a key and its value. -/
def Layout.colon : Layout → List Char
  | .compact => [':']
  | .indented => [':', ' ']

mutual

/-- A value at a depth. -/
def write (layout : Layout) (depth : Nat) : Json → List Char
  | .null => ['n', 'u', 'l', 'l']
  | .bool true => ['t', 'r', 'u', 'e']
  | .bool false => ['f', 'a', 'l', 's', 'e']
  | .int n => writeInt n
  | .float x => x.render spelling
  | .str s => quote s
  | .arr [] => ['[', ']']
  | .arr (v :: rest) =>
    '[' :: (layout.lead (depth + 1) ++ write layout (depth + 1) v ++ writeItems layout (depth + 1) rest) ++
      layout.lead depth ++ [']']
  | .obj [] => ['{', '}']
  | .obj ((k, v) :: rest) =>
    '{' :: (layout.lead (depth + 1) ++ quote k ++ layout.colon ++ write layout (depth + 1) v ++
      writeMembers layout (depth + 1) rest) ++ layout.lead depth ++ ['}']

/-- The items of an array after the first. -/
def writeItems (layout : Layout) (depth : Nat) : List Json → List Char
  | [] => []
  | v :: rest => ',' :: (layout.lead depth ++ write layout depth v ++ writeItems layout depth rest)

/-- The members of an object after the first. -/
def writeMembers (layout : Layout) (depth : Nat) : List (String × Json) → List Char
  | [] => []
  | (k, v) :: rest =>
    ',' :: (layout.lead depth ++ quote k ++ layout.colon ++ write layout depth v ++ writeMembers layout depth rest)

end

/-- A value on one line. -/
def compact (v : Json) : String := String.ofList (write .compact 0 v)

/-- A value with every part on a line of its own. -/
def indented (v : Json) : String := String.ofList (write .indented 0 v)

/-- The text that a value is written as, with every part on a line of its own. -/
def encode [Host] (v : Json) : Except Fault String :=
  match v.refusal? 0 with
  | some f => .error f
  | none => .ok v.indented

theorem encode_of_none [Host] {v : Json} (h : v.refusal? 0 = none) : v.encode = .ok v.indented := by simp [encode, h]

theorem encode_of_some [Host] {v : Json} {f : Fault} (h : v.refusal? 0 = some f) : v.encode = .error f := by
  simp [encode, h]

end ChatRelay.Json
