import ChatRelay.Text.Numeral

/-!
# Arguments of the command line

- `Arguments`: what a command line asks for;
- `Arguments.parse`: reads a command line. A long option may be cut short as long as it is clear which one is meant, and
  its value may stand after an equals sign; a short option may have its value, or further short options, right behind
  it. The value `--`, which can only stand like that, takes an option back.

Options take effect in their order, so what asks for the version is done before a later option is looked at. Only an
option that is cut too short is found before all others.
-/

namespace ChatRelay

/-- What a command line asks for. -/
structure Arguments where
  config : Option String
  host : Option String
  port : Option Int
  stateFile : Option String
  agent : Option String
  logLevel : Option String
  inspectState : Bool
  resetState : Bool

namespace Arguments

/-- A command line that asks for nothing. -/
def none : Arguments := ⟨.none, .none, .none, .none, .none, .none, false, false⟩

/-- How the reading of a command line ends when it does not ask for a run. -/
inductive Refusal
  | version
  | help
  | misuse

/-- The options. -/
inductive Flag
  | help
  | version
  | config
  | host
  | port
  | stateFile
  | agent
  | logLevel
  | inspectState
  | resetState
deriving DecidableEq

/-- The spellings of the options. -/
def spellings : List (String × Flag) :=
  [("-h", .help), ("--help", .help), ("--version", .version), ("-V", .version), ("--config", .config), ("-c", .config),
    ("--host", .host), ("--port", .port), ("--state-file", .stateFile), ("--agent", .agent),
    ("--log-level", .logLevel), ("--inspect-state", .inspectState), ("--reset-state", .resetState)]

/-- The option of a spelling. -/
def flag? (spelling : String) : Option Flag := (spellings.find? fun s => s.1 = spelling).map (·.2)

/-- Whether an option takes a value. -/
def Flag.takesValue : Flag → Bool
  | .help | .version | .inspectState | .resetState => false
  | _ => true

/-- How an argument is understood. -/
inductive Item
  | value (s : String)
  /-- An option in its long or its short spelling, with the text that stands in the same argument. -/
  | option (f : Flag) (isShort : Bool) (attached : Option String)
  | unknown
  /-- The mark after which there are no more options. -/
  | divider

/-! ## Telling options from values -/

/-- The part of a text before an equals sign and the part after it. -/
def splitEquals? (cs : List Char) : Option (String × String) :=
  match cs.dropWhile (· ≠ '=') with
  | _ :: rest => some (String.ofList (cs.takeWhile (· ≠ '=')), String.ofList rest)
  | [] => .none

/-- Whether a text holds digits only, at least one of them, with or without a line feed after them. -/
def isDigits (cs : List Char) : Bool :=
  let isDigit (c : Char) : Bool := (Text.decimalDigit? c).isSome
  match cs.span isDigit with
  | (digits, []) | (digits, ['\n']) => !digits.isEmpty
  | _ => false

/-- Whether a text is a negative number: digits with at most one point among or before them. -/
def isNegativeNumber : List Char → Bool
  | '-' :: cs =>
    isDigits cs ||
      match cs.dropWhile fun c => (Text.decimalDigit? c).isSome with
      | '.' :: ds => isDigits ds
      | _ => false
  | _ => false

/-- Whether a spelling is a short one. -/
def isShort (spelling : String) : Bool := !spelling.startsWith "--"

/-- The options that a long spelling may be short for. -/
def abbreviated (cs : List Char) : List (Flag × Bool × Option String) :=
  let (stem, attached) :=
    match splitEquals? cs with
    | some (stem, value) => (stem, some value)
    | .none => (String.ofList cs, .none)
  spellings.filterMap fun s => if s.1.startsWith stem then some (s.2, false, attached) else .none

/-- The option that a short spelling begins with, with what follows it. -/
def joined (c : Char) (rest : List Char) : List (Flag × Bool × Option String) :=
  spellings.filterMap fun s =>
    if s.1 = String.ofList ['-', c] then some (s.2, true, some (String.ofList rest)) else .none

/-- The options that an argument may mean. -/
def candidates : List Char → List (Flag × Bool × Option String)
  | '-' :: '-' :: cs => abbreviated ('-' :: '-' :: cs)
  | '-' :: c :: rest => joined c rest
  | _ => []

/-- How an argument is understood that begins with a dash and is no option in full. -/
def classifyDashed (s : String) : Option Item :=
  match candidates s.toList with
  | [(f, isShort, attached)] => some (.option f isShort attached)
  | [] => some (if isNegativeNumber s.toList || s.toList.contains ' ' then .value s else .unknown)
  | _ => .none

/-- How an argument is understood, unless it may mean several options. -/
def classify (s : String) : Option Item :=
  if !s.startsWith "-" || s = "-" then some (.value s)
  else
    match flag? s, (splitEquals? s.toList).bind fun e => (flag? e.1).map (·, e.2) with
    | some f, _ => some (.option f (isShort s) .none)
    | .none, some (f, value) => some (.option f (isShort s) (some value))
    | .none, .none => classifyDashed s

/-- How the arguments are understood. -/
def classifyAll : List String → Option (List Item)
  | [] => some []
  | "--" :: rest => some (.divider :: rest.map .value)
  | s :: rest => do return (← classify s) :: (← classifyAll rest)

/-! ## Carrying out -/

/-- Takes an option back. -/
def clear (a : Arguments) : Flag → Arguments
  | .config => { a with config := .none }
  | .host => { a with host := .none }
  | .port => { a with port := .none }
  | .stateFile => { a with stateFile := .none }
  | .agent => { a with agent := .none }
  | .logLevel => { a with logLevel := .none }
  | .help | .version | .inspectState | .resetState => a

/-- Takes over an option with its value. -/
def set [Host] (a : Arguments) (f : Flag) (value : String) : Except Refusal Arguments :=
  if value = "--" then .ok (a.clear f)
  else
    match f with
    | .config => .ok { a with config := some value }
    | .host => .ok { a with host := some value }
    | .port => match Text.readInt? value with
      | some n => .ok { a with port := some n }
      | .none => .error .misuse
    | .stateFile => .ok { a with stateFile := some value }
    | .agent => .ok { a with agent := some value }
    | .logLevel => .ok { a with logLevel := some value }
    | .help | .version | .inspectState | .resetState => .ok a

/-- Takes over an option without a value. -/
def raise (a : Arguments) : Flag → Except Refusal Arguments
  | .help => .error .help
  | .version => .error .version
  | .inspectState => .ok { a with inspectState := true }
  | .resetState => .ok { a with resetState := true }
  | _ => .ok a

/-- The options that one argument holds. -/
structure Held where
  /-- Those without a value. -/
  flags : List Flag
  /-- The one after them that takes a value, with the value if it stands there. -/
  last : Option (Flag × Option String)

/-- The options that are spelled one behind the other, after the first ones. Nothing but another option can stand
behind an option without a value. -/
def unfold : List Flag → Flag → List Char → Option Held
  | before, f, [] => some (if f.takesValue then ⟨before, some (f, .none)⟩ else ⟨before ++ [f], .none⟩)
  | before, f, c :: cs =>
    if f.takesValue then some ⟨before, some (f, some (String.ofList (c :: cs)))⟩
    else (flag? (String.ofList ['-', c])).bind fun g => unfold (before ++ [f]) g cs

/-- The options that one argument holds, unless there is text with an option that has no use for it. -/
def held (f : Flag) (isShort : Bool) : Option String → Option Held
  | .none => unfold [] f []
  | some text =>
    if f.takesValue then some ⟨[], some (f, some text)⟩
    else if isShort && text ≠ "" then unfold [] f text.toList
    else .none

/-- Takes over options without values, one after the other. -/
def raiseAll (a : Arguments) (flags : List Flag) : Except Refusal Arguments := flags.foldlM raise a

/-- Carries out what was understood. What is neither an option nor its value is a misuse in the end. -/
def carryOut [Host] (strays : Bool) (a : Arguments) : List Item → Except Refusal Arguments
  | [] => if strays then .error .misuse else .ok a
  | .option f isShort attached :: rest =>
    match held f isShort attached with
    | .none => .error .misuse
    | some ⟨flags, .none⟩ => (raiseAll a flags).bind fun a => carryOut strays a rest
    | some ⟨flags, some (g, some value)⟩ =>
      ((raiseAll a flags).bind fun a => a.set g value).bind fun a => carryOut strays a rest
    | some ⟨flags, some (g, .none)⟩ =>
      match rest with
      | .value value :: rest => ((raiseAll a flags).bind fun a => a.set g value).bind fun a => carryOut strays a rest
      | _ => .error .misuse
  | _ :: rest => carryOut true a rest

/-- Reads a command line. -/
def parse [Host] (args : List String) : Except Refusal Arguments :=
  match classifyAll args with
  | some items => carryOut false none items
  | .none => .error .misuse

end Arguments

end ChatRelay
