import ChatRelay.Assoc
import ChatRelay.Yaml.Scalar

/-!
# Tokens of a document

- `Token`: the marks and the scalars of a document, with marks where an indented collection begins and ends;
- `Token.ofText?`: the tokens of a text, if it has no fault that shows before the tokens are put together.

A key is known as one only by the colon after it. So a place is left in front of everything that may be a key, and is
filled when the colon comes; tokens are only ever added at the end.
-/

namespace ChatRelay.Yaml

/-- A tag as it is written: a handle, if there is one, and the rest. -/
structure TagSpelling where
  handle : Option String
  suffix : String
deriving DecidableEq

/-- A part of a document. -/
inductive Token
  /-- The version that the document is written for. -/
  | version (major : Nat)
  /-- What a handle stands for. -/
  | tagHandle (handle meaning : String)
  /-- A line for processors that know it. -/
  | reserved
  | documentStart
  | documentEnd
  | streamEnd
  | blockSequence
  | blockMapping
  | blockEnd
  | flowSequence
  | flowSequenceEnd
  | flowMapping
  | flowMappingEnd
  | key
  | value
  | blockEntry
  | flowEntry
  | anchor (name : String)
  | alias (name : String)
  | tag (t : TagSpelling)
  /-- A text, by the numbers of its characters. -/
  | scalar (codes : List Nat) (isPlain : Bool)
  /-- A place that a key mark may still be put in. -/
  | slot (n : Nat)
deriving DecidableEq

namespace Token

/-- Something that may turn out to be a key. -/
structure PendingKey where
  slot : Nat
  /-- Whether it has to be one. -/
  required : Bool
  index : Nat
  line : Nat
  column : Nat

/-- What is known while a document is cut into tokens. -/
structure Lexer where
  cursor : Cursor
  /-- The tokens so far, last first. -/
  tokens : List Token
  slots : Nat
  /-- The slots that were filled, with whether a mapping begins there. -/
  filled : List (Nat × Bool)
  /-- How many brackets are open. -/
  flow : Nat
  /-- The column of the innermost indented collection, -1 when there is none. -/
  indent : Int
  outer : List Int
  /-- Whether a key may begin here. -/
  keyAllowed : Bool
  /-- The pending key of each depth of brackets. -/
  pending : List (Nat × PendingKey)

namespace Lexer

/-- The lexer before a text. -/
def ofList (cs : List Char) : Lexer := ⟨.ofList cs, [], 0, [], 0, -1, [], true, []⟩

/-- The lexer with a token added. -/
def push (l : Lexer) (t : Token) : Lexer := { l with tokens := t :: l.tokens }

/-- The lexer at another place. -/
def moveTo (l : Lexer) (c : Cursor) : Lexer := { l with cursor := c }

/-! ## Pending keys -/

/-- Drops the pending keys that can no longer be keys: a key ends on its line and is not long. One that has to be a key
is a fault. -/
def dropStale (l : Lexer) : Option Lexer :=
  let isStale (p : PendingKey) : Bool := p.line ≠ l.cursor.line || l.cursor.index > p.index + 1024
  if l.pending.any fun e => isStale e.2 && e.2.required then none
  else some { l with pending := l.pending.filter fun e => !isStale e.2 }

/-- Drops the pending key of this depth. -/
def dropPending (l : Lexer) : Option Lexer :=
  match Assoc.get? l.flow l.pending with
  | some p => if p.required then none else some { l with pending := Assoc.erase l.flow l.pending }
  | none => some l

/-- Leaves a slot where a key may begin. -/
def savePending (l : Lexer) : Option Lexer :=
  let required := l.flow = 0 && l.indent = l.cursor.column
  if l.keyAllowed then do
    let l ← l.dropPending
    let p : PendingKey := ⟨l.slots, required, l.cursor.index, l.cursor.line, l.cursor.column⟩
    return { l.push (.slot l.slots) with slots := l.slots + 1, pending := Assoc.put l.flow p l.pending }
  else some l

/-! ## Indentation -/

/-- Ends the collections that are indented more than a column. -/
def unwindTo (column : Int) : List Int → Lexer → Lexer
  | [], l => l
  | i :: outer, l =>
    if column < l.indent then unwindTo column outer { l.push .blockEnd with indent := i, outer := outer } else l

/-- Ends the collections that are indented more than a column, outside brackets. -/
def unwind (l : Lexer) (column : Int) : Lexer := if l.flow = 0 then unwindTo column l.outer l else l

/-- Whether a collection at a column is indented more than those around it. -/
def isDeeper (l : Lexer) (column : Nat) : Bool := l.indent < column

/-- The lexer inside a collection at a column. -/
def indentTo (l : Lexer) (column : Nat) : Lexer := { l with outer := l.indent :: l.outer, indent := column }

/-! ## Gaps, directives and marks between documents -/

/-- Goes to the next token, over spaces, comments and line ends. -/
def skipGaps : Nat → Lexer → Lexer
  | 0, l => l
  | fuel + 1, l =>
    let c := l.cursor.skip (· = ' ')
    let d := if c.peek? = some '#' then c.skip fun ch => !isBreak ch else c
    match d.lineBreak? with
    | some (_, e) => skipGaps fuel { l with cursor := e, keyAllowed := l.keyAllowed || l.flow = 0 }
    | none => l.moveTo d

/-- Goes to the next token from wherever the last one ended. A byte order mark is skipped at the beginning. -/
def toNext (l : Lexer) : Lexer :=
  let l := if l.cursor.index = 0 && l.cursor.peek? = some byteOrderMark then l.moveTo l.cursor.next else l
  skipGaps (l.cursor.rest.length + 1) l

/-- Whether a character can stand in a name. -/
def isNameChar (c : Char) : Bool := c.isAlphanum || c = '-' || c = '_'

/-- The number that a run of digits spells. -/
def number? (ds : List Char) : Option Nat :=
  if ds.isEmpty then none else some (Nat.ofDigitChars 10 ds 0)

/-- Whether a character can stand in a tag. -/
def isTagChar (c : Char) : Bool := c.isAlphanum || "-;/?:@&=+$,_.!~*'()[]".toList.contains c

/-- The bytes that begin a character of UTF-8 and go on with it. -/
def percentBytes : Nat → List Char → Option (List UInt8 × List Char)
  | 0, cs => some ([], cs)
  | fuel + 1, '%' :: a :: b :: cs => do
    let n ← Text.hexNumber? [a, b]
    let (more, rest) ← percentBytes fuel cs
    return (n.toUInt8 :: more, rest)
  | _ + 1, '%' :: _ => none
  | _ + 1, cs => some ([], cs)

/-- The text of a tag, with bytes written after percent signs. -/
def tagText : Nat → List Char → Cursor → Option (List Char × Cursor)
  | 0, _, _ => none
  | fuel + 1, acc, c =>
    match c.rest with
    | '%' :: _ => do
      let (bytes, rest) ← percentBytes c.rest.length c.rest
      let s ← String.fromUTF8? ⟨bytes.toArray⟩
      tagText fuel (acc ++ s.toList) (c.advance (c.rest.length - rest.length))
    | ch :: _ => if isTagChar ch then tagText fuel (acc ++ [ch]) c.next else some (acc, c)
    | [] => some (acc, c)

/-- The text of a tag, which is not empty. -/
def tagUri (c : Cursor) : Option (String × Cursor) := do
  let (cs, d) ← tagText (c.rest.length + 1) [] c
  if cs.isEmpty then none else some (String.ofList cs, d)

/-- A handle of tags: an exclamation mark, or a name between two. -/
def tagHandleAt (c : Cursor) : Option (String × Cursor) :=
  match c.rest with
  | '!' :: cs =>
    let name := cs.takeWhile isNameChar
    match cs.drop name.length with
    | '!' :: _ => some (String.ofList ('!' :: (name ++ ['!'])), c.advance (name.length + 2))
    | _ => if name.isEmpty then some ("!", c.next) else none
  | _ => none

/-- A directive after its percent sign, up to the end of its line. -/
def directive (c : Cursor) : Option (Token × Cursor) := do
  let (name, d) := c.span isNameChar
  if name.isEmpty || !atGap d.rest then none
  else
    match String.ofList name with
    | "YAML" =>
      let (major, e) := (d.skip (· = ' ')).span Char.isDigit
      let (minor, f) := (if e.peek? = some '.' then e.next else e).span Char.isDigit
      if e.peek? ≠ some '.' || minor.isEmpty || !atGap f.rest then none
      else return (.version (← number? major), ← Scalar.ignoredLine f)
    | "TAG" =>
      let (handle, e) ← tagHandleAt (d.skip (· = ' '))
      if e.peek? ≠ some ' ' then none
      else
        let (meaning, f) ← tagUri (e.skip (· = ' '))
        if !atGap f.rest then none else return (.tagHandle handle meaning, ← Scalar.ignoredLine f)
    | _ => return (.reserved, ← Scalar.ignoredLine (d.skip fun ch => !isBreak ch))

/-- The lexer after everything indented has ended and no key can begin. -/
def atMargin (l : Lexer) : Option Lexer := do
  let l ← (l.unwind (-1)).dropPending
  return { l with keyAllowed := false }

/-! ## Anchors and tags -/

/-- Whether something can follow the name of an anchor. -/
def endsAnchor (cs : List Char) : Bool := atSpace cs || (cs.head?.map "?:,]\x7d%@".toList.contains).getD false

/-- The name after the sign of an anchor or an alias. -/
def anchorName (c : Cursor) : Option (String × Cursor) :=
  let (name, d) := c.next.span isNameChar
  if name.isEmpty || !endsAnchor d.rest && d.peek? ≠ some (Char.ofNat 96) then none else some (String.ofList name, d)

/-- A tag. -/
def tagAt (c : Cursor) : Option (TagSpelling × Cursor) := do
  let (t, d) ←
    match c.rest with
    | '!' :: '<' :: _ => do
      let (uri, d) ← tagUri (c.advance 2)
      if d.peek? = some '>' then some (TagSpelling.mk none uri, d.next) else none
    | _ =>
      if atSpace c.next.rest then some (TagSpelling.mk none "!", c.next)
      else if (c.next.rest.takeWhile fun ch => !(ch = ' ' || isBreak ch)).contains '!' then do
        let (handle, d) ← tagHandleAt c
        let (uri, e) ← tagUri d
        some (TagSpelling.mk (some handle) uri, e)
      else do
        let (uri, d) ← tagUri c.next
        some (TagSpelling.mk (some "!") uri, d)
  if atGap d.rest then some (t, d) else none

/-! ## Tokens -/

/-- A token that may be a key, or the first token of one. -/
def content (l : Lexer) (t : Token) (c : Cursor) : Option Lexer := do
  let l ← l.savePending
  return { (l.push t).moveTo c with keyAllowed := false }

/-- An opening bracket. -/
def openBracket (l : Lexer) (t : Token) : Option Lexer := do
  let l ← l.savePending
  return { (l.push t).moveTo l.cursor.next with flow := l.flow + 1, keyAllowed := true }

/-- A closing bracket. One that closes nothing is a fault. -/
def closeBracket (l : Lexer) (t : Token) : Option Lexer := do
  let l ← l.dropPending
  if l.flow = 0 then none
  else return { (l.push t).moveTo l.cursor.next with flow := l.flow - 1, keyAllowed := false }

/-- Begins a collection at the column of the next token, if that is deeper. -/
def beginBlock (l : Lexer) (t : Token) : Lexer :=
  if l.isDeeper l.cursor.column then (l.push t).indentTo l.cursor.column else l

/-- A dash in front of an item. -/
def dash (l : Lexer) : Option Lexer := do
  if l.flow = 0 && !l.keyAllowed then none
  else
    let l ← (if l.flow = 0 then l.beginBlock .blockSequence else l).dropPending
    return { (l.push .blockEntry).moveTo l.cursor.next with keyAllowed := true }

/-- A question mark in front of a key. -/
def explicitKey (l : Lexer) : Option Lexer := do
  if l.flow = 0 && !l.keyAllowed then none
  else
    let l ← (if l.flow = 0 then l.beginBlock .blockMapping else l).dropPending
    return { (l.push .key).moveTo l.cursor.next with keyAllowed := l.flow = 0 }

/-- A colon: what is pending is a key. -/
def colon (l : Lexer) : Option Lexer :=
  match Assoc.get? l.flow l.pending with
  | some p =>
    let isNew := l.flow = 0 && l.isDeeper p.column
    let l := { l with pending := Assoc.erase l.flow l.pending, filled := (p.slot, isNew) :: l.filled }
    let l := if isNew then l.indentTo p.column else l
    some { (l.push .value).moveTo l.cursor.next with keyAllowed := false }
  | none =>
    if l.flow = 0 && !l.keyAllowed then none
    else
      let l := if l.flow = 0 then l.beginBlock .blockMapping else l
      some { (l.push .value).moveTo l.cursor.next with keyAllowed := l.flow = 0 }

/-- A comma. -/
def comma (l : Lexer) : Option Lexer := do
  let l ← l.dropPending
  return { (l.push .flowEntry).moveTo l.cursor.next with keyAllowed := true }

/-- A mark between documents. -/
def mark (l : Lexer) (t : Token) : Option Lexer := do
  let l ← l.atMargin
  return (l.push t).moveTo (l.cursor.advance 3)

/-- A text below a bar or an angle. -/
def blockScalar (l : Lexer) (isFolded : Bool) : Option Lexer := do
  let l ← l.dropPending
  let (text, c) ← Scalar.block isFolded l.indent l.cursor
  return { (l.push (.scalar (Scalar.numbers text) false)).moveTo c with keyAllowed := true }

/-- A text between quotes. -/
def quotedScalar (l : Lexer) (isDouble : Bool) : Option Lexer := do
  let (codes, c) ← Scalar.quoted isDouble l.cursor
  l.content (.scalar codes false) c

/-- The characters that no plain text begins with, unless something makes them harmless. -/
def isIndicator (c : Char) : Bool :=
  "-?:,[]\x7b\x7d#&*!|>'\"%@".toList.contains c || c.toNat = 96

/-- Whether plain text begins here. -/
def beginsPlain (l : Lexer) : Bool :=
  match l.cursor.rest with
  | [] => false
  | c :: cs =>
    !(atSpace (c :: cs) || isIndicator c) || (!atSpace cs && (c = '-' || (l.flow = 0 && (c = '?' || c = ':'))))

/-- A text without quotes. -/
def plainScalar (l : Lexer) : Option Lexer := do
  let l ← l.savePending
  let p := Scalar.plain (l.flow ≠ 0) (l.indent + 1).toNat l.cursor
  return { (l.push (.scalar (Scalar.numbers p.text) true)).moveTo p.cursor with keyAllowed := p.broken }

/-- The next token, which begins at the given text. -/
def lexAt (l : Lexer) (c : Char) (cs : List Char) : Option Lexer :=
  if c = '%' && l.cursor.column = 0 then do
    let l ← l.atMargin
    let (t, d) ← directive l.cursor.next
    return (l.push t).moveTo d
  else if c = '-' && l.cursor.column = 0 && atMark (c :: cs) then l.mark .documentStart
  else if c = '.' && l.cursor.column = 0 && atMark (c :: cs) then l.mark .documentEnd
  else if c = '[' then l.openBracket .flowSequence
  else if c = '{' then l.openBracket .flowMapping
  else if c = ']' then l.closeBracket .flowSequenceEnd
  else if c = '}' then l.closeBracket .flowMappingEnd
  else if c = ',' then l.comma
  else if c = '-' && atSpace cs then l.dash
  else if c = '?' && (l.flow ≠ 0 || atSpace cs) then l.explicitKey
  else if c = ':' && (l.flow ≠ 0 || atSpace cs) then l.colon
  else if c = '*' then do
    let (name, d) ← anchorName l.cursor
    l.content (.alias name) d
  else if c = '&' then do
    let (name, d) ← anchorName l.cursor
    l.content (.anchor name) d
  else if c = '!' then do
    let (t, d) ← tagAt l.cursor
    l.content (.tag t) d
  else if c = '|' && l.flow = 0 then l.blockScalar false
  else if c = '>' && l.flow = 0 then l.blockScalar true
  else if c = '\'' then l.quotedScalar false
  else if c = '"' then l.quotedScalar true
  else if l.beginsPlain then l.plainScalar
  else none

/-- The tokens of a lexer, last first, up to the end of the text. -/
def run : Nat → Lexer → Option Lexer
  | 0, _ => none
  | fuel + 1, l => do
    let l ← l.toNext.dropStale
    let l := l.unwind l.cursor.column
    match l.cursor.rest with
    | [] => return (← l.atMargin).push .streamEnd
    | c :: cs => run fuel (← l.lexAt c cs)

/-- The tokens of a lexer in order, with the marks of the filled slots. -/
def output (l : Lexer) : List Token :=
  l.tokens.reverse.flatMap fun t =>
    match t with
    | .slot n =>
      match Assoc.get? n l.filled with
      | some true => [.blockMapping, .key]
      | some false => [.key]
      | none => []
    | t => [t]

end Lexer

/-- Whether a character can stand in a document. -/
def isAllowed (c : Char) : Bool :=
  let n := c.toNat
  n = 9 || n = 10 || n = 13 || (32 ≤ n && n ≤ 126) || n = 0x85 || (0xA0 ≤ n && n ≤ 0xFFFD) || 0x10000 ≤ n

/-- The tokens of a text. -/
def ofText? (cs : List Char) : Option (List Token) :=
  if cs.all isAllowed then (Lexer.run (cs.length + 2) (.ofList cs)).map Lexer.output else none

end Token

end ChatRelay.Yaml
