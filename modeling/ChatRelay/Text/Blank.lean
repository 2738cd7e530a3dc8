/-!
# Blank characters

- `isBlank`: the white space of every script, with the information separators of the control block;
- `strip`: a text without the blanks at its ends.
-/

namespace ChatRelay.Text

/-- The code points of white space: the controls that move the position, the spaces and the separators. -/
def isBlank (c : Char) : Bool :=
  let n := c.toNat
  (9 ≤ n && n ≤ 13) || (28 ≤ n && n ≤ 32) || n == 133 || n == 160 || n == 5760 || (8192 ≤ n && n ≤ 8202) ||
    n == 8232 || n == 8233 || n == 8239 || n == 8287 || n == 12288

/-- A text without leading blanks. -/
def stripStart (cs : List Char) : List Char := cs.dropWhile isBlank

/-- A text without trailing blanks. -/
def stripEnd (cs : List Char) : List Char := cs.reverse.dropWhile isBlank |>.reverse

/-- A text without the blanks at its ends. -/
def strip (cs : List Char) : List Char := stripEnd (stripStart cs)

end ChatRelay.Text
