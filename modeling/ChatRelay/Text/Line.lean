/-!
# Lines

- `unifyNewlines`: a carriage return, alone or before a line feed, becomes a line feed;
- `splitLines`: the lines of a text. A line ends at any line separator, the last one needs none, and an empty text
  has no lines.
-/

namespace ChatRelay.Text

/-- A text in which every carriage return, alone or before a line feed, is one line feed. -/
def unifyNewlines : List Char → List Char
  | [] => []
  | '\r' :: '\n' :: cs => '\n' :: unifyNewlines cs
  | c :: cs => (if c = '\r' then '\n' else c) :: unifyNewlines cs

/-- The characters that end a line. -/
def isLineEnd (c : Char) : Bool :=
  let n := c.toNat
  (10 ≤ n && n ≤ 13) || (28 ≤ n && n ≤ 30) || n == 133 || n == 8232 || n == 8233

/-- The lines of a text whose unfinished line so far, reversed, is given. -/
def splitLinesFrom (line : List Char) : List Char → List (List Char)
  | [] => if line.isEmpty then [] else [line.reverse]
  | '\r' :: '\n' :: cs => line.reverse :: splitLinesFrom [] cs
  | c :: cs => if isLineEnd c then line.reverse :: splitLinesFrom [] cs else splitLinesFrom (c :: line) cs

/-- The lines of a text, without their ends. -/
def splitLines (cs : List Char) : List (List Char) := splitLinesFrom [] cs

end ChatRelay.Text
