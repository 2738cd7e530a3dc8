import ChatRelay.Json.Printer
import ChatRelay.Text.Blank
import ChatRelay.Text.Line

/-!
# The line that names the agent

- `AgentLine.edit`: the text of a preferences file with another agent named in it. Only the value behind the first
  `name:` that is indented below an `agent:` section is replaced; without one, a line is put below the last such
  section, and without a section one is put at the end.

A line that begins at the margin, and is no comment, begins a section, whatever it holds.
-/

namespace ChatRelay.AgentLine

open Text (isBlank strip)

/-- Whether a line begins a section. -/
def beginsSection : List Char → Bool
  | [] => false
  | c :: _ => !isBlank c && c ≠ '#'

/-- What a line at the margin holds before its comment. -/
def sectionName (line : List Char) : List Char := strip (line.takeWhile (· ≠ '#'))

/-- The section of the agent. -/
def agentSection : List Char := "agent:".toList

/-- The text after a text in front. -/
def dropWord (word cs : List Char) : Option (List Char) :=
  if word.isPrefixOf cs then some (cs.drop word.length) else none

/-- The indentation of a line and what follows its `name:`, if it is indented and has one. -/
def nameEntryOn? (line : List Char) : Option (List Char × List Char) :=
  let indent := line.takeWhile isBlank
  if indent.isEmpty then none else (dropWord "name:".toList (line.drop indent.length)).map (indent, ·)

/-- The text after the closing quote, for a text that begins behind the opening one. -/
def afterQuote? (quote : Char) (cs : List Char) : Option (List Char) :=
  match cs.dropWhile (· ≠ quote) with
  | _ :: rest => some rest
  | [] => none

/-- Whether a character belongs to a value without quotes. -/
def isBare (c : Char) : Bool := !isBlank c && c ≠ '#'

/-- What follows a value: a text between quotes, or the characters up to the next blank or comment. -/
def afterValue (cs : List Char) : List Char :=
  let bare := cs.dropWhile isBare
  match cs with
  | '"' :: rest => (afterQuote? '"' rest).getD bare
  | '\'' :: rest => (afterQuote? '\'' rest).getD bare
  | _ => bare

/-- A line with the value of its entry replaced. -/
def replaceValue (value indent rest : List Char) : List Char :=
  indent ++ "name: ".toList ++ value ++ afterValue (rest.dropWhile isBlank)

/-- Replaces the value of the first name in a section of the agent, if there is one. -/
def replaceFirst (value : List Char) (inAgent : Bool) : List (List Char) → Option (List (List Char))
  | [] => none
  | line :: rest =>
    if beginsSection line then (replaceFirst value (sectionName line = agentSection) rest).map (line :: ·)
    else
      match if inAgent then nameEntryOn? line else none with
      | some (indent, after) => some (replaceValue value indent after :: rest)
      | none => (replaceFirst value inAgent rest).map (line :: ·)

/-- Whether a line begins a section of the agent. -/
def isHeader (line : List Char) : Bool := beginsSection line && sectionName line = agentSection

/-- The lines with another one below the last section of the agent, if there is one. -/
def insertBelow (entry : List Char) : List (List Char) → Option (List (List Char))
  | [] => none
  | line :: rest =>
    match insertBelow entry rest with
    | some rest => some (line :: rest)
    | none => if isHeader line then some (line :: entry :: rest) else none

/-- The lines of a file with another agent named in them. -/
def editLines (name : String) (lines : List (List Char)) : List (List Char) :=
  let value := Json.quoteAscii name
  let entry := "  name: ".toList ++ value
  match replaceFirst value false lines, insertBelow entry lines with
  | some lines, _ => lines
  | none, some lines => lines
  | none, none => lines ++ [[], agentSection, entry]

/-- A text of lines, each with its end. -/
def joinLines (lines : List (List Char)) : List Char := lines.flatMap (· ++ ['\n'])

/-- The text of a file with another agent named in it. -/
def edit (name text : String) : String :=
  String.ofList (joinLines (editLines name (Text.splitLines text.toList)))

end ChatRelay.AgentLine
