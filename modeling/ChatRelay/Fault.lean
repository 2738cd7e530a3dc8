import ChatRelay.Text.Literal

/-!
# Faults

- `Fault`: what can go wrong while a request is carried out, by cause;
- `Fault.text`: the text that a fault is reported with.
-/

namespace ChatRelay

/-- The family that a fault raised by a backend belongs to. -/
inductive FaultFamily
  | runtime
  | value
  | key
  | connection
deriving DecidableEq

/-- Why a request could not be carried out. -/
inductive Fault
  /-- A backend gave up, with or without a word. -/
  | backend (family : FaultFamily) (word : Option String)
  /-- The agent does not know the session. -/
  | unknownSession (session : String)
  /-- The turns of a reported state are no list; the kind of the value is kept. -/
  | turnsNotListed (kind : String)
  /-- The delay of an agent is no number; the kind of the value is kept. -/
  | delayNotNumber (kind : String)
  /-- The file system refused. -/
  | fileSystem
  /-- A file is no text. -/
  | undecodable
  /-- A value cannot stand where it was found. -/
  | badValue
  /-- An integer has more digits than the host turns into text. -/
  | integerTooLong (limit : Nat)
  /-- A text holds half a pair of surrogates, which is no character. -/
  | unpaired
  /-- A value has the wrong kind. -/
  | badKind
  /-- Something without fields was asked for one. -/
  | noFields
  /-- A character of a text was asked for that has none. -/
  | emptyText
  /-- A word is not among those that were looked for. -/
  | unknownWord
  /-- Something lies too deep in other things, or in itself. -/
  | tooDeep
  /-- A number is too large. -/
  | tooLarge
  /-- A path begins at the home of an unknown user. -/
  | unknownHome
  /-- No agent goes by a name. -/
  | agentLoad (reason : String)
  /-- A response broke off after some chunks had been passed on. -/
  | relay (tab message : String) (chunksSent : Nat) (cause : Fault)
deriving DecidableEq

/-- The text that a fault is reported with. A missing key is shown as a literal. -/
def Fault.text : Fault → String
  | .backend .key (some word) => Text.literal word
  | .backend _ (some word) => word
  | .backend _ none => ""
  | .unknownSession session => "unknown session: " ++ session
  | .turnsNotListed kind => Text.literal kind ++ " object is not iterable"
  | .delayNotNumber kind =>
    Text.literal "<=" ++ " not supported between instances of " ++ Text.literal kind ++ " and " ++ Text.literal "int"
  | .integerTooLong limit =>
    "Exceeds the limit (" ++ toString limit ++
      " digits) for integer string conversion; use sys.set_int_max_str_digits() to increase the limit"
  | .agentLoad reason => reason
  | .relay tab message n _ =>
    "relay " ++ message ++ " on tab " ++ tab ++ " failed after " ++ toString n ++ " chunk(s)"
  | _ => ""

end ChatRelay
