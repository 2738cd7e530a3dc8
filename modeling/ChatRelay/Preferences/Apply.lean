import ChatRelay.Preferences.Basic
import ChatRelay.Text.Case
import ChatRelay.Text.Numeral
import ChatRelay.Yaml.Value

/-!
# Setting preferences from a document

- `Preferences.apply`: the preferences after settings were taken over, entry by entry. An entry that cannot be taken
  over is a fault, and what was taken over before it stays;
- `Preferences.applyJson`: the same for a JSON value, which has to be an object.

Each entry is converted to the kind of its preference. A section that is no map is ignored.
-/

namespace ChatRelay

namespace Yaml.Value

variable [Host]

/-- The text of bytes that are all ASCII. Of others no number can be read. -/
def asciiText? (bs : List UInt8) : Option String :=
  if bs.all (· < 128) then some (String.ofList (bs.map fun b => Char.ofNat b.toNat)) else none

/-- A value that a text may not have. -/
def numberIn {α : Type} : Option α → Except Fault α
  | some x => .ok x
  | none => .error .badValue

/-- A value as an integer. A float loses its fraction. -/
def toInt : Value → Except Fault Int
  | .bool b => .ok (if b then 1 else 0)
  | .int n => .ok n
  | .float .nan => .error .badValue
  | .float x => match x.truncate? with
    | some n => .ok n
    | none => .error .tooLarge
  | .str s => numberIn (Text.readInt? s)
  | .bytes bs => numberIn ((asciiText? bs).bind Text.readInt?)
  | .nan _ | .codes _ => .error .badValue
  | _ => .error .badKind

/-- An integer as a float. -/
def floatOfInt (n : Int) : Except Fault Binary64 :=
  match Binary64.ofInt? n with
  | some x => .ok x
  | none => .error .tooLarge

/-- A value as a float. -/
def toFloat : Value → Except Fault Binary64
  | .bool b => floatOfInt (if b then 1 else 0)
  | .int n => floatOfInt n
  | .float x => .ok x
  | .nan _ => .ok .nan
  | .str s => numberIn (Text.readNumber? s)
  | .bytes bs => numberIn ((asciiText? bs).bind Text.readNumber?)
  | .codes _ => .error .badValue
  | _ => .error .badKind

/-- The text of a value, if the host turns it into one. Halves of characters in a text have to follow each other in
pairs, which count as the characters that they spell. -/
def toText : Value → Except Fault String
  | .codes ns =>
    match Text.joinPairs? ns with
    | some cs => .ok (String.ofList cs)
    | none => .error .unpaired
  | v =>
    match v.refusal? 0 with
    | some f => .error f
    | none => .ok v.text

/-- The text of a value as a path. -/
def toPath (v : Value) : Except Fault Path := do (Path.ofString (← v.toText)).expandHome

end Yaml.Value

namespace Preferences

open Yaml (Value)

variable [Host]

/-- The fault that ended the taking over, if one did, and the preferences by then. -/
abbrev Applied := Option Fault × Preferences

/-- Takes over an entry that is there, unless a fault came before. -/
def take {α : Type} (entry : Option Value) (convert : Value → Except Fault α) (set : Preferences → α → Preferences) :
    Applied → Applied
  | (none, p) =>
    match entry.map convert with
    | none => (none, p)
    | some (.ok a) => (none, set p a)
    | some (.error f) => (some f, p)
  | r => r

/-- The number of seconds that a delay comes to: none is negative. -/
def delayOf (v : Value) : Except Fault Binary64 :=
  v.toFloat.map fun x => if x.isPositive then x else .zero false

/-- What a document holds under the name of a section and the key of an entry in it. -/
abbrev Settings := String → String → Option Value

/-- The value of an entry that counts as given. -/
def Settings.given? (s : Settings) (section_ key : String) : Option Value := (s section_ key).filter Value.truthy

/-- Takes over the section of the server. -/
def applyServer (s : Settings) (r : Applied) : Applied :=
  r |> take (s "server" "host") Value.toText (fun p host => { p with server.host := host })
    |> take (s "server" "port") Value.toInt (fun p n => { p with server.port := n })

/-- Takes over the section of the storage. -/
def applyStorage (s : Settings) (r : Applied) : Applied :=
  r |> take (s.given? "storage" "path") Value.toPath (fun p path => { p with storage.path := path })
    |> take (s.given? "storage" "state_key") Value.toText (fun p key => { p with storage.stateKey := key })

/-- Takes over the section of the agent. -/
def applyAgent (s : Settings) (r : Applied) : Applied :=
  r |> take (s.given? "agent" "name") Value.toText (fun p name => { p with agent.name := name })
    |> take (s "agent" "chunk_delay") delayOf (fun p x => { p with agent.chunkDelay := x })

/-- The file of logs that a value names, none when it counts as not given. -/
def logFileOf (v : Value) : Except Fault (Option Path) := if v.truthy then v.toPath.map some else .ok none

/-- Takes over the section of the logs. -/
def applyLogging (s : Settings) (r : Applied) : Applied :=
  r |> take (s.given? "logging" "level") Value.toText (fun p level => { p with logging.level := Text.upper level })
    |> take (s "logging" "file") logFileOf (fun p file => { p with logging.file := file })

/-- Takes over settings. -/
def apply (p : Preferences) (s : Settings) : Applied :=
  (none, p) |> applyServer s |> applyStorage s |> applyAgent s |> applyLogging s

/-- Takes over a JSON value. -/
def applyJson (p : Preferences) (data : Json) : Applied :=
  match data with
  | .obj _ => p.apply fun section_ key => ((Value.ofJson data).get? section_).bind (Value.get? key)
  | _ => (some .noFields, p)

end Preferences

end ChatRelay
