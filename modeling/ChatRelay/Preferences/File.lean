import ChatRelay.Files.Disk
import ChatRelay.Notice
import ChatRelay.Preferences.AgentLine
import ChatRelay.Preferences.Apply
import ChatRelay.Yaml.Document

/-!
# The preferences file

- `Preferences.load`: the preferences of a file. A file that cannot be read or taken over counts for nothing, and one
  that is missing is written with what holds without it;
- `Preferences.saveAgent`: names another agent in a file.
-/

namespace ChatRelay.Preferences

variable [Host]

/-- The lines of a new file. -/
def newLines : List String := [
  "# symposium-chat preferences",
  "# Delete this file to reset to defaults.",
  "",
  "server:",
  "  host: \"127.0.0.1\"              # interface the web surface listens on",
  "  port: 8765",
  "",
  "storage:",
  "  path: \"~/.symposium/chat-state.json\"   # where tab/session snapshots live",
  "  state_key: \"symposium.chatState\"",
  "",
  "agent:",
  "  name: \"echo\"                   # built-in name or \"package.module:factory\"",
  "  chunk_delay: 0.02              # seconds between echo chunks",
  "",
  "logging:",
  "  level: \"INFO\"",
  "  file: \"\"                       # empty = log to stderr only"]

/-- The text of a new file. -/
def newFile : String := String.join (newLines.map (· ++ "\n"))

/-- Whether a fault of a file leaves the preferences as they were. -/
def isForgiven : Fault → Bool
  | .fileSystem | .undecodable | .badValue | .integerTooLong _ | .badKind => true
  | _ => false

/-- The preferences that the text of a file sets. -/
def ofText (path : Path) (text : String) : Except Fault (Preferences × List Notice) := do
  let d ← Yaml.Document.ofText text
  if !d.truthy then return (default, [])
  else if d.isMap then
    match apply default d.setting? with
    | (none, p) => return (p, [])
    | (some f, _) => .error f
  else return (default, [.preferencesNotMapping path.toString])

/-- The preferences of a file, with the disk after they were loaded. -/
def load (d : Disk) (path : Path) : Except Fault Preferences × Disk × List Notice :=
  match d.exists path with
  | .error f => (.error f, d, [])
  | .ok true =>
    match (d.readText path).bind (ofText path) with
    | .ok (p, notices) => (.ok p, d, notices)
    | .error f =>
      if isForgiven f then (.ok default, d, [.preferencesUnreadable path.toString]) else (.error f, d, [])
  | .ok false =>
    match d.create path newFile with
    | (.ok (), d) => (.ok default, d, [])
    | (.error .fileSystem, d) => (.ok default, d, [.defaultsNotWritten path.toString])
    | (.error f, d) => (.error f, d, [])

/-- Writes the text of a file with another agent named in it. -/
def writeAgent (d : Disk) (path : Path) (name text : String) : Except Fault Unit × Disk :=
  d.keep (d.writeText path (AgentLine.edit name text))

/-- Names another agent in a file, or in a new one where there is none. -/
def renameAgent (d : Disk) (path : Path) (name : String) : Except Fault Unit × Disk :=
  match d.exists path with
  | .error f => (.error f, d)
  | .ok true =>
    match d.readText path with
    | .ok text => writeAgent d path name text
    | .error f => (.error f, d)
  | .ok false => d.withParent path fun d => writeAgent d path name newFile

/-- Names another agent in a file. The result tells whether the file was written. -/
def saveAgent (d : Disk) (path : Path) (name : String) : Except Fault Bool × Disk × List Notice :=
  match renameAgent d path name with
  | (.ok (), d) => (.ok true, d, [])
  | (.error .fileSystem, d) => (.ok false, d, [.agentNotSaved path.toString])
  | (.error f, d) => (.error f, d, [])

end ChatRelay.Preferences
