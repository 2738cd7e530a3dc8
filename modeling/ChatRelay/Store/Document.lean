import ChatRelay.Files.Disk
import ChatRelay.Json.Parser
import ChatRelay.Json.Printer
import ChatRelay.Notice

/-!
# One JSON document in a file

- `Document.load`: the value in the file, an empty object when there is no file or it holds no JSON text;
- `Document.save`: replaces the value. The new text is written beside the file and then moved into its place, so the
  file never holds a part of it. A value that the host turns into no text is refused before anything is written.
-/

namespace ChatRelay.Document

/-- What the file counts as when it cannot be read. -/
def default : Json := .obj []

/-- The text that a value is kept as. -/
def text [Host] (v : Json) (sorted : Bool) : Except Fault String := (if sorted then v.sortKeys else v).encode

/-- The path of the file that a new text is first written to. -/
def draft (p : Path) : Except Fault Path :=
  match p.name? with
  | some name => .ok (p.sibling (name ++ ".tmp"))
  | none => .error .badValue

/-- The fault of a text whose value cannot be had. A text that is malformed has none. -/
def faultOf : Json.ReadError → Option Fault
  | .malformed => none
  | .tooDeep => some .tooDeep
  | .unpaired => some .unpaired
  | .integerTooLong | .undecodable => some .badValue

/-- The value in a file. A file without JSON text counts as empty. A file that is no text is a fault, and so is one
whose value is beyond the limits of the host. -/
def load [Host] (d : Disk) (p : Path) : Except Fault Json × List Notice :=
  match (d.exists p).bind fun there => if there then (d.readText p).map some else .ok none with
  | .ok none => (.ok default, [])
  | .ok (some s) =>
    match Json.read s with
    | .ok v => (.ok v, [])
    | .error e =>
      match faultOf e with
      | none => (.ok default, [.storeUnreadable p.toString])
      | some f => (.error f, [])
  | .error .fileSystem => (.ok default, [.storeUnreadable p.toString])
  | .error e => (.error e, [])

/-- Replaces the value in a file. The disk that is left is the second part, also after a fault. -/
def save [Host] (d : Disk) (p : Path) (v : Json) (sorted : Bool) : Except Fault Unit × Disk :=
  d.withParent p fun d =>
    match draft p with
    | .error e => (.error e, d)
    | .ok q =>
      match (text v sorted).bind (d.writeText q) with
      | .error e => (.error e, d)
      | .ok d => d.keep (d.rename q p)

end ChatRelay.Document
