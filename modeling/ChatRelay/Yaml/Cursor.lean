/-!
# A place in a document

- `Cursor`: the text that is left, with the line and the column that it begins at;
- `Cursor.span`, `Cursor.lineBreak?`: reading characters of a class, and the end of a line.

A line ends at a line feed, a carriage return, both together, a next-line character, or a line or paragraph
separator.
-/

namespace ChatRelay.Yaml

/-- Whether a character ends a line. -/
def isBreak (c : Char) : Bool :=
  c = '\n' || c = '\r' || c.toNat = 0x85 || c.toNat = 0x2028 || c.toNat = 0x2029

/-- The byte order mark, which has no width. -/
def byteOrderMark : Char := Char.ofNat 0xFEFF

/-- A place in a document. -/
structure Cursor where
  rest : List Char
  index : Nat
  line : Nat
  column : Nat

namespace Cursor

/-- The beginning of a document. -/
def ofList (cs : List Char) : Cursor := ⟨cs, 0, 0, 0⟩

/-- The place after one character. -/
def next (c : Cursor) : Cursor :=
  match c.rest with
  | [] => c
  | ch :: cs =>
    if isBreak ch && !(ch = '\r' && cs.head? = some '\n') then ⟨cs, c.index + 1, c.line + 1, 0⟩
    else ⟨cs, c.index + 1, c.line, if ch = byteOrderMark then c.column else c.column + 1⟩

/-- The place after a number of characters. -/
def advance : Nat → Cursor → Cursor
  | 0, c => c
  | n + 1, c => advance n c.next

/-- The next character. -/
def peek? (c : Cursor) : Option Char := c.rest.head?

/-- The longest run of characters of a class, and the place after it. -/
def span (p : Char → Bool) (c : Cursor) : List Char × Cursor :=
  let run := c.rest.takeWhile p
  (run, c.advance run.length)

/-- The place after the longest run of characters of a class. -/
def skip (p : Char → Bool) (c : Cursor) : Cursor := (c.span p).2

/-- The end of a line as it counts in a text, and the place after it: all but the two separators are line feeds. -/
def lineBreak? (c : Cursor) : Option (Char × Cursor) :=
  match c.rest with
  | '\r' :: '\n' :: _ => some ('\n', c.advance 2)
  | ch :: _ =>
    if isBreak ch then some (if ch.toNat = 0x2028 ∨ ch.toNat = 0x2029 then ch else '\n', c.next) else none
  | [] => none

end Cursor

/-- Whether a text is at its end or at the end of a line. -/
def atLineEnd (cs : List Char) : Bool :=
  match cs with
  | [] => true
  | c :: _ => isBreak c

/-- Whether a text is at its end or at white space. -/
def atSpace (cs : List Char) : Bool :=
  match cs with
  | [] => true
  | c :: _ => c = ' ' || c = '\t' || isBreak c

/-- Whether a text is at its end, at a space or at the end of a line. -/
def atGap (cs : List Char) : Bool :=
  match cs with
  | [] => true
  | c :: _ => c = ' ' || isBreak c

/-- Whether a text begins with a mark between documents. -/
def atMark : List Char → Bool
  | '-' :: '-' :: '-' :: cs => atSpace cs
  | '.' :: '.' :: '.' :: cs => atSpace cs
  | _ => false

end ChatRelay.Yaml
