import ChatRelay.Text.CodeUnit
import ChatRelay.Yaml.Cursor

/-!
# Scalars in a document

- `Scalar.plain`: a text without quotes;
- `Scalar.single`, `Scalar.double`: a text between quotes;
- `Scalar.block`: the lines that are indented below a bar or an angle.

Each function begins at the first character of its scalar. Lines that are folded are joined by a space, and empty
lines between them stay as line feeds. A text between quotes is read as numbers, since an escape may spell one that is
half a character. Readers of quoted and indented lines run on fuel, of which the length of the text is enough.
-/

namespace ChatRelay.Yaml.Scalar

/-- The text between two lines that are folded into one: a space, or the empty lines between them. A separator of lines
or paragraphs stays. -/
def folded (lineBreak : Char) (breaks : List Char) : List Char :=
  if lineBreak ≠ '\n' then lineBreak :: breaks else if breaks.isEmpty then [' '] else breaks

/-! ## Plain scalars -/

/-- Whether a character ends plain text inside brackets. -/
def isFlowMark (c : Char) : Bool := c = ',' || c = '[' || c = ']' || c = '{' || c = '}'

/-- How many characters of plain text there are up to the next gap. -/
def plainLength (flow : Bool) : List Char → Nat
  | [] => 0
  | c :: cs =>
    if c = ' ' || c = '\t' || isBreak c then 0
    else if c = ':' && (atSpace cs || (flow && (cs.head?.map isFlowMark).getD false)) then 0
    else if flow && (isFlowMark c || c = '?') then 0
    else plainLength flow cs + 1

/-- The empty lines after a line of plain text, last first, with whether a mark between documents follows. -/
def plainBreaks : Nat → List Char → Cursor → List Char × Cursor × Bool
  | 0, acc, c => (acc, c, false)
  | fuel + 1, acc, c =>
    match c.lineBreak? with
    | some (b, d) => if atMark d.rest then (b :: acc, d, true) else plainBreaks fuel (b :: acc) d
    | none => if c.peek? = some ' ' then plainBreaks fuel acc c.next else (acc, c, false)

/-- What stands between two runs of plain text. -/
structure Gap where
  text : List Char
  cursor : Cursor
  /-- Whether a line ended. -/
  broken : Bool

/-- The gap after a run of plain text. There is none before a mark between documents. -/
def plainGap (c : Cursor) : Gap :=
  let (spaces, d) := c.span (· = ' ')
  match d.lineBreak? with
  | some (b, e) =>
    if atMark e.rest then ⟨[], e, true⟩
    else
      let (breaks, f, marked) := plainBreaks e.rest.length [] e
      if marked then ⟨[], f, true⟩ else ⟨folded b breaks.reverse, f, true⟩
  | none => ⟨spaces, d, false⟩

/-- A scalar that was read. -/
structure Plain where
  text : List Char
  cursor : Cursor
  /-- Whether a line ended in it or after it. -/
  broken : Bool

/-- Plain text after the part that was read, which the gap so far follows. -/
def plainFrom (flow : Bool) (indent : Nat) : Nat → List Char → List Char → Bool → Cursor → Plain
  | 0, acc, _, broken, c => ⟨acc, c, broken⟩
  | fuel + 1, acc, gap, broken, c =>
    let n := if c.peek? = some '#' then 0 else plainLength flow c.rest
    if n = 0 then ⟨acc, c, broken⟩
    else
      let acc := acc ++ gap ++ c.rest.take n
      let g := plainGap (c.advance n)
      if g.text.isEmpty || g.cursor.peek? = some '#' || (!flow && g.cursor.column < indent) then
        ⟨acc, g.cursor, g.broken⟩
      else plainFrom flow indent fuel acc g.text g.broken g.cursor

/-- A text without quotes, whose lines are indented at least as given. -/
def plain (flow : Bool) (indent : Nat) (c : Cursor) : Plain :=
  plainFrom flow indent (c.rest.length + 1) [] [] false c

/-! ## Quoted scalars -/

/-- The character that stands after a backslash for itself or another one. -/
def escape? : Char → Option Char
  | '0' => some (Char.ofNat 0)
  | 'a' => some (Char.ofNat 7)
  | 'b' => some (Char.ofNat 8)
  | 't' => some '\t'
  | '\t' => some '\t'
  | 'n' => some '\n'
  | 'v' => some (Char.ofNat 11)
  | 'f' => some (Char.ofNat 12)
  | 'r' => some '\r'
  | 'e' => some (Char.ofNat 27)
  | ' ' => some ' '
  | '"' => some '"'
  | '\\' => some '\\'
  | '/' => some '/'
  | 'N' => some (Char.ofNat 0x85)
  | '_' => some (Char.ofNat 0xA0)
  | 'L' => some (Char.ofNat 0x2028)
  | 'P' => some (Char.ofNat 0x2029)
  | _ => none

/-- How many hexadecimal digits follow a letter after a backslash. -/
def escapeWidth? : Char → Option Nat
  | 'x' => some 2
  | 'u' => some 4
  | 'U' => some 8
  | _ => none

/-- The number that hexadecimal digits after a backslash and a letter spell. -/
def escapeCode? (width : Nat) (cs : List Char) : Option Nat := do
  let ds := cs.take width
  if ds.length < width then none
  else
    let n ← Text.hexNumber? ds
    if n < 0x110000 then some n else none

/-- Whether a character stands for itself in quotes. -/
def isQuotedText (c : Char) : Bool := !(c = '\'' || c = '"' || c = '\\' || c = ' ' || c = '\t' || isBreak c)

/-- The empty lines inside quotes, last first, and the place where text goes on. -/
def quotedBreaks : Nat → List Char → Cursor → Option (List Char × Cursor)
  | 0, _, _ => none
  | fuel + 1, acc, c =>
    if atMark c.rest then none
    else
      let d := c.skip fun ch => ch = ' ' || ch = '\t'
      match d.lineBreak? with
      | some (b, e) => quotedBreaks fuel (b :: acc) e
      | none => some (acc, d)

/-- The gap inside quotes that begins with white space. -/
def quotedGap (c : Cursor) : Option (List Char × Cursor) :=
  let (spaces, d) := c.span fun ch => ch = ' ' || ch = '\t'
  match d.lineBreak? with
  | some (b, e) => do
    let (breaks, f) ← quotedBreaks (e.rest.length + 1) [] e
    return (folded b breaks.reverse, f)
  | none => if d.rest.isEmpty then none else some (spaces, d)

/-- Characters as numbers. -/
def numbers (cs : List Char) : List Nat := cs.map Char.toNat

/-- What a backslash and the characters after it stand for. At the end of a line it joins the lines. -/
def escaped (c : Cursor) : Option (List Nat × Cursor) :=
  match c.rest with
  | [] => none
  | ch :: cs =>
    match escape? ch, escapeWidth? ch with
    | some r, _ => some ([r.toNat], c.next)
    | none, some width => (escapeCode? width cs).map fun n => ([n], c.advance (width + 1))
    | none, none => do
      let (_, d) ← c.lineBreak?
      let (breaks, e) ← quotedBreaks (d.rest.length + 1) [] d
      return (numbers breaks.reverse, e)

/-- What a quote inside quotes stands for, and how many characters it takes. The closing quote stands for nothing. -/
def innerQuote (isDouble : Bool) : List Char → Option (Char × Nat)
  | '\'' :: '\'' :: _ => some ('\'', if isDouble then 1 else 2)
  | '\'' :: _ => if isDouble then some ('\'', 1) else none
  | '"' :: _ => if isDouble then none else some ('"', 1)
  | _ => none

/-- The text up to the closing quote, after the text that was read. -/
def quotedFrom (isDouble : Bool) : Nat → List Nat → Cursor → Option (List Nat × Cursor)
  | 0, _, _ => none
  | fuel + 1, acc, c =>
    match c.peek? with
    | none => none
    | some ch =>
      if ch = '\'' || ch = '"' then
        match innerQuote isDouble c.rest with
        | some (q, length) => quotedFrom isDouble fuel (acc ++ [q.toNat]) (c.advance length)
        | none => some (acc, c.next)
      else if ch = '\\' && isDouble then do
        let (text, d) ← escaped c.next
        quotedFrom isDouble fuel (acc ++ text) d
      else if ch = '\\' then quotedFrom isDouble fuel (acc ++ [ch.toNat]) c.next
      else
        let (run, d) := c.span isQuotedText
        if run.isEmpty then do
          let (gap, e) ← quotedGap c
          quotedFrom isDouble fuel (acc ++ numbers gap) e
        else quotedFrom isDouble fuel (acc ++ numbers run) d

/-- A text between quotes. -/
def quoted (isDouble : Bool) (c : Cursor) : Option (List Nat × Cursor) :=
  quotedFrom isDouble (c.rest.length + 1) [] c.next

/-! ## Block scalars -/

/-- What is done with the line ends after the last line of a block. -/
inductive Chomping
  | strip
  | clip
  | keep

/-- The sign for the line ends after the last line. -/
def chomping? : Option Char → Option Chomping
  | some '+' => some .keep
  | some '-' => some .strip
  | _ => none

/-- The digit for the indentation. -/
def increment? : Option Char → Option Nat
  | some c => if '1' ≤ c ∧ c ≤ '9' then some (c.toNat - 48) else none
  | none => none

/-- The signs after a bar or an angle, in either order. -/
def blockHeader (c : Cursor) : Chomping × Option Nat × Cursor :=
  match chomping? c.peek? with
  | some k =>
    match increment? c.next.peek? with
    | some n => (k, some n, c.advance 2)
    | none => (k, none, c.next)
  | none =>
    match increment? c.peek? with
    | some n =>
      match chomping? c.next.peek? with
      | some k => (k, some n, c.advance 2)
      | none => (.clip, some n, c.next)
    | none => (.clip, none, c)

/-- The rest of a line that holds nothing but a comment. -/
def ignoredLine (c : Cursor) : Option Cursor :=
  let d := c.skip (· = ' ')
  let e := if d.peek? = some '#' then d.skip fun ch => !isBreak ch else d
  if atLineEnd e.rest then some ((e.lineBreak?.map (·.2)).getD e) else none

/-- The empty lines in front of a block, last first, and its indentation: the widest run of spaces among them. -/
def blockIndent : Nat → List Char → Nat → Cursor → List Char × Nat × Cursor
  | 0, acc, widest, c => (acc, widest, c)
  | fuel + 1, acc, widest, c =>
    match c.lineBreak? with
    | some (b, d) => blockIndent fuel (b :: acc) widest d
    | none =>
      if c.peek? = some ' ' then blockIndent fuel acc (max widest c.next.column) c.next else (acc, widest, c)

/-- The place after the spaces of an indentation. -/
def skipIndent : Nat → Nat → Cursor → Cursor
  | 0, _, c => c
  | fuel + 1, indent, c =>
    if c.column < indent ∧ c.peek? = some ' ' then skipIndent fuel indent c.next else c

/-- The empty lines inside a block, last first, and the place after the indentation of the next line. -/
def blockBreaks (indent : Nat) : Nat → List Char → Cursor → List Char × Cursor
  | 0, acc, c => (acc, c)
  | fuel + 1, acc, c =>
    let d := skipIndent indent indent c
    match d.lineBreak? with
    | some (b, e) => blockBreaks indent fuel (b :: acc) e
    | none => (acc, d)

/-- Whether a line of a block begins with white space. -/
def beginsBlank (c : Cursor) : Bool := c.peek? = some ' ' || c.peek? = some '\t'

/-- The text between two lines of a block. -/
def blockJoin (isFolded : Bool) (lineBreak : List Char) (afterText beforeText : Bool) (breaks : List Char) :
    List Char :=
  if isFolded && lineBreak = ['\n'] && afterText && beforeText then if breaks.isEmpty then [' '] else []
  else lineBreak

/-- The lines of a block after the text and the empty lines that were read. -/
def blockLines (isFolded : Bool) (chomp : Chomping) (indent : Nat) :
    Nat → List Char → List Char → Cursor → List Char × Cursor
  | 0, acc, _, c => (acc, c)
  | fuel + 1, acc, breaks, c =>
    let (run, d) := c.span fun ch => !isBreak ch
    let text := acc ++ breaks ++ run
    let (lineBreak, e) :=
      match d.lineBreak? with
      | some (b, e) => ([b], e)
      | none => ([], d)
    let (more, f) := blockBreaks indent (e.rest.length + 1) [] e
    if f.column = indent ∧ !f.rest.isEmpty then
      blockLines isFolded chomp indent fuel
        (text ++ blockJoin isFolded lineBreak (!beginsBlank c) (!beginsBlank f) more) more.reverse f
    else
      match chomp with
      | .strip => (text, f)
      | .clip => (text ++ lineBreak, f)
      | .keep => (text ++ lineBreak ++ more.reverse, f)

/-- The text of a block below lines with the given indentation, -1 when there are none. -/
def block (isFolded : Bool) (outer : Int) (c : Cursor) : Option (List Char × Cursor) := do
  let (chomp, increment, d) := blockHeader c.next
  if !atGap d.rest then none
  else
    let e ← ignoredLine d
    let least := (max (outer + 1) 1).toNat
    let (breaks, indent, f) :=
      match increment with
      | some n =>
        let (breaks, f) := blockBreaks (least + n - 1) (e.rest.length + 1) [] e
        (breaks, least + n - 1, f)
      | none =>
        let (breaks, widest, f) := blockIndent (e.rest.length + 1) [] 0 e
        (breaks, max least widest, f)
    if f.column = indent ∧ !f.rest.isEmpty then
      return blockLines isFolded chomp indent (f.rest.length + 1) [] breaks.reverse f
    else
      return (match chomp with | .keep => breaks.reverse | _ => [], f)

end ChatRelay.Yaml.Scalar
