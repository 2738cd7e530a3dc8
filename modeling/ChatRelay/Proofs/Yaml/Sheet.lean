import ChatRelay.Preferences.AgentLine
import ChatRelay.Yaml.Node

/-!
# Sheets

The documents that people write by hand, line by line: sections at the margin with indented entries below them,
comments, and values on the line of their key.

- `Remark`: white space and a comment, which end a line or fill one;
- `Writing`: how a value is written, as plain text or between quotes;
- `Entry`, `Section`, `Sheet`: the parts of a document, with all that is needed to be read as such;
- `Sheet.text`: the text of a sheet, and `Sheet.tokens`: the tokens that it is meant to have.
-/

namespace ChatRelay.Yaml

open Token (isAllowed)
open Token.Lexer (isNameChar isIndicator)

/-- Whether a character can stand inside a line. -/
def isInLine (c : Char) : Bool := isAllowed c && !isBreak c

/-! ## Parts of a line -/

/-- White space, and a comment behind it if there is one. -/
structure Remark where
  spaces : Nat
  comment : Option (List Char)
  legible : (comment.getD []).all isInLine = true

namespace Remark

/-- What a remark looks like. -/
def text (r : Remark) : List Char := List.replicate r.spaces ' ' ++ (r.comment.map ('#' :: ·)).getD []

/-- Whether a remark can follow plain text, to which a number sign without a space in front would belong. -/
def isApart (r : Remark) : Bool := r.spaces ≠ 0 || r.comment.isNone

end Remark

/-- A word that names something and means nothing else. -/
structure Word where
  first : Char
  more : List Char
  isName : (first :: more).all isNameChar = true
  noDash : first ≠ '-'
  isShort : more.length < 1024
  isText : Plain.tag (String.ofList (first :: more)) = .str

/-- The characters of a word. -/
def Word.chars (w : Word) : List Char := w.first :: w.more

/-- Whether characters can be a part of plain text: no white space among them, and no colon at the end. -/
def isRun (cs : List Char) : Bool :=
  !cs.isEmpty && cs.all (fun c => isInLine c && c ≠ ' ' && c ≠ '\t') && cs.getLast? ≠ some ':'

/-- Whether a part of plain text can stand at its front. -/
def isFront : List Char → Bool
  | [] => false
  | c :: cs => c ≠ byteOrderMark && (!isIndicator c || (!cs.isEmpty && (c = '-' || c = '?' || c = ':')))

/-- What a text between quotes spells: characters of a line that stand for themselves, a doubled quote between single
quotes, and escapes between double ones. -/
inductive Spells (isDouble : Bool) : List Char → List Nat → Prop
  | nil : Spells isDouble [] []
  | char {c : Char} {cs : List Char} {codes : List Nat} (inLine : isInLine c = true)
      (harmless : c ≠ (if isDouble then '"' else '\'') ∧ ¬(isDouble = true ∧ c = '\\'))
      (rest : Spells isDouble cs codes) : Spells isDouble (c :: cs) (c.toNat :: codes)
  | doubled {cs : List Char} {codes : List Nat} (single : isDouble = false) (rest : Spells isDouble cs codes) :
      Spells isDouble ('\'' :: '\'' :: cs) (39 :: codes)
  | escape {c r : Char} {cs : List Char} {codes : List Nat} (double : isDouble = true)
      (known : Scalar.escape? c = some r) (rest : Spells isDouble cs codes) :
      Spells isDouble ('\\' :: c :: cs) (r.toNat :: codes)
  | code {c : Char} {width n : Nat} {ds cs : List Char} {codes : List Nat} (double : isDouble = true)
      (known : Scalar.escapeWidth? c = some width) (whole : ds.length = width)
      (number : Scalar.escapeCode? width ds = some n) (rest : Spells isDouble cs codes) :
      Spells isDouble ('\\' :: c :: (ds ++ cs)) (n :: codes)

/-- How a value is written. -/
inductive Writing
  /-- As plain text: runs with spaces between them. -/
  | plain (first : List Char) (more : List (Nat × List Char)) (isRun : isRun first = true)
      (isFront : isFront first = true) (areRuns : more.all (fun e => Yaml.isRun e.2 && e.2.head? ≠ some '#') = true)
  /-- Between quotes. -/
  | quoted (isDouble : Bool) (inner : List Char) (codes : List Nat) (spells : Spells isDouble inner codes)

namespace Writing

/-- The sign of a kind of quotes. -/
def quote (isDouble : Bool) : Char := if isDouble then '"' else '\''

/-- What the runs after the first one look like. -/
def runs (more : List (Nat × List Char)) : List Char := more.flatMap fun e => List.replicate (e.1 + 1) ' ' ++ e.2

/-- What a value looks like. -/
def text : Writing → List Char
  | plain first more .. => first ++ runs more
  | quoted isDouble inner .. => quote isDouble :: (inner ++ [quote isDouble])

/-- Whether a value is written without quotes. -/
def isPlain : Writing → Bool
  | plain .. => true
  | quoted .. => false

/-- The text of a value, by the numbers of its characters. -/
def codes : Writing → List Nat
  | plain first more .. => Scalar.numbers (first ++ runs more)
  | quoted _ _ codes _ => codes

end Writing

/-! ## Entries, sections, sheets -/

/-- A key at the beginning of a line, with what stands on its line and the remarks below it. -/
structure Entry where
  key : Word
  /-- The value, if it stands on the line, after one space and as many more as given. -/
  value : Option (Nat × Writing)
  tail : Remark
  below : List Remark
  apart : (tail.isApart || value.any fun v => !v.2.isPlain) = true

namespace Entry

/-- What a value on the line of its key looks like. -/
def shown : Option (Nat × Writing) → List Char
  | none => []
  | some (n, w) => List.replicate (n + 1) ' ' ++ w.text

/-- The lines of an entry whose key stands at a column. -/
def lines (column : Nat) (e : Entry) : List (List Char) :=
  (List.replicate column ' ' ++ (e.key.chars ++ ':' :: (shown e.value ++ e.tail.text))) :: e.below.map Remark.text

/-- The tokens of a value. -/
def valueTokens : Option (Nat × Writing) → List Token
  | none => []
  | some (_, w) => [.scalar w.codes w.isPlain]

/-- The tokens of an entry. -/
def tokens (e : Entry) : List Token :=
  [.key, .scalar (Scalar.numbers e.key.chars) true, .value] ++ valueTokens e.value

end Entry

/-- A section: a key at the margin, and entries indented below it. -/
structure Section where
  heading : Entry
  bare : heading.value = none
  /-- By how many columns more than one the entries are indented. -/
  indent : Nat
  entries : List Entry
  distinct : (entries.map fun e => e.key.chars).Nodup

namespace Section

/-- The characters of the name of a section. -/
def name (s : Section) : List Char := s.heading.key.chars

/-- The column of the entries. -/
def column (s : Section) : Nat := s.indent + 1

/-- The lines of a section. -/
def lines (s : Section) : List (List Char) := s.heading.lines 0 ++ s.entries.flatMap (Entry.lines s.column)

/-- The tokens of the entries of a section, which are a mapping if there are any. -/
def body : List Entry → List Token
  | [] => []
  | es => .blockMapping :: (es.flatMap Entry.tokens ++ [.blockEnd])

/-- The tokens of a section. -/
def tokens (s : Section) : List Token := s.heading.tokens ++ body s.entries

end Section

/-- A document of sections. -/
structure Sheet where
  /-- What stands above the first section. -/
  above : List Remark
  sections : List Section
  distinct : (sections.map Section.name).Nodup

namespace Sheet

/-- The lines of a sheet. -/
def lines (f : Sheet) : List (List Char) := f.above.map Remark.text ++ f.sections.flatMap Section.lines

/-- The characters of a sheet. -/
def chars (f : Sheet) : List Char := AgentLine.joinLines f.lines

/-- The text of a sheet. -/
def text (f : Sheet) : String := String.ofList f.chars

/-- The tokens of a sheet. -/
def tokens (f : Sheet) : List Token :=
  match f.sections with
  | [] => [.streamEnd]
  | ss => .blockMapping :: (ss.flatMap Section.tokens ++ [.blockEnd, .streamEnd])

end Sheet

end ChatRelay.Yaml
