import ChatRelay.Assoc
import ChatRelay.Files.Path
import ChatRelay.Text.Line

/-!
# Files

- `Disk`: the files and directories below the working directory, by their place;
- `Disk.locate`: the place that a path leads to. Outside the working directory there is only the root directory, and
  nothing can be written;
- `Disk.exists`, `Disk.readBytes`, `Disk.readText`, `Disk.writeText`, `Disk.rename`: the operations. Each either fails
  and leaves the disk as it was, or does its work whole;
- `Disk.makeDirectories`, `Disk.create`: the operations that make directories. Those made before a failure stay.

A text is read as UTF-8 with every carriage return, alone or before a line feed, as a line feed. A name or a path that
is too long fails where the file system meets it: a name only in a directory that is there.
-/

namespace ChatRelay

/-- A place below the working directory, by the names that lead to it. -/
abbrev Location := List String

/-- What stands at a place. -/
inductive Entry
  | file (bytes : ByteArray)
  | directory

/-- The files and directories below the working directory. -/
structure Disk where
  entries : List (Location × Entry)

namespace Disk

/-- A disk without files. -/
def empty : Disk := ⟨[]⟩

/-- What stands at a place. The working directory itself is always there. -/
def entryAt? (d : Disk) (loc : Location) : Option Entry :=
  if loc = [] then some .directory else Assoc.get? loc d.entries

/-- Whether a directory stands at a place. -/
def isDirectory (d : Disk) (loc : Location) : Bool :=
  match d.entryAt? loc with
  | some .directory => true
  | _ => false

/-- Puts an entry at a place. -/
def put (d : Disk) (loc : Location) (e : Entry) : Disk := ⟨Assoc.put loc e d.entries⟩

/-- Removes the entry of a place. -/
def erase (d : Disk) (loc : Location) : Disk := ⟨Assoc.erase loc d.entries⟩

/-! ## Places -/

/-- The place that parts lead to from a directory, if they lead anywhere. -/
def walk (d : Disk) (from_ : Location) : List String → Except Fault (Option Location)
  | [] => .ok (some from_)
  | part :: rest =>
    if d.isDirectory from_ then
      if part = ".." then
        if from_ = [] then .ok none else walk d from_.dropLast rest
      else if Path.isLongName part then .error .fileSystem
      else walk d (from_ ++ [part]) rest
    else .ok none

/-- The place that a path leads to, if it leads anywhere. -/
def locate (d : Disk) (p : Path) : Except Fault (Option Location) :=
  if p.hasNul then .error .badValue
  else if p.isLong then .error .fileSystem
  else if p.slashes = 0 then d.walk [] p.parts
  else if p.parts.head?.any Path.isLongName then .error .fileSystem
  else .ok none

/-- What a path leads to, if it leads anywhere. -/
def at? (d : Disk) (p : Path) : Except Fault (Option Entry) :=
  if p.isRoot then .ok (some .directory) else (d.locate p).map fun loc => loc.bind d.entryAt?

/-- Whether a path leads to something. No file has a name with a null character. -/
def «exists» (d : Disk) (p : Path) : Except Fault Bool :=
  if p.hasNul then .ok false else (d.at? p).map Option.isSome

/-! ## Reading -/

/-- The bytes of a file. -/
def readBytes (d : Disk) (p : Path) : Except Fault ByteArray :=
  match d.at? p with
  | .ok (some (.file bytes)) => .ok bytes
  | .ok _ => .error .fileSystem
  | .error f => .error f

/-- The text that bytes hold. -/
def decode (bytes : ByteArray) : Except Fault String :=
  match String.fromUTF8? bytes with
  | some s => .ok (String.ofList (Text.unifyNewlines s.toList))
  | none => .error .undecodable

/-- The text of a file. -/
def readText (d : Disk) (p : Path) : Except Fault String := (d.readBytes p).bind decode

/-! ## Writing -/

/-- Makes sure that a directory stands at every place on the way from a directory along the parts. -/
def makeAlong (d : Disk) (from_ : Location) : List String → Except Fault Unit × Disk
  | [] => (.ok (), d)
  | part :: rest =>
    if part = ".." then
      if from_ = [] then (.error .fileSystem, d) else makeAlong d from_.dropLast rest
    else if Path.isLongName part then (.error .fileSystem, d)
    else
      let loc := from_ ++ [part]
      match d.entryAt? loc with
      | some .directory => makeAlong d loc rest
      | some (.file _) => (.error .fileSystem, d)
      | none => makeAlong (d.put loc .directory) loc rest

/-- Makes a directory and the directories that it lies in, as far as they are missing. -/
def makeDirectories (d : Disk) (p : Path) : Except Fault Unit × Disk :=
  if p.isRoot then (.ok (), d)
  else if p.hasNul then (.error .badValue, d)
  else if p.isLong || p.slashes ≠ 0 then (.error .fileSystem, d)
  else d.makeAlong [] p.parts

/-- The place where a file can be written. -/
def writable (d : Disk) (p : Path) : Except Fault Location :=
  match d.locate p with
  | .ok (some loc) => if d.isDirectory loc.dropLast && !d.isDirectory loc then .ok loc else .error .fileSystem
  | .ok none => .error .fileSystem
  | .error f => .error f

/-- Writes a file in place of what it held. -/
def writeText (d : Disk) (p : Path) (text : String) : Except Fault Disk :=
  (d.writable p).map fun loc => d.put loc (.file text.toUTF8)

/-- Makes sure that a file is there to be appended to. -/
def touch (d : Disk) (p : Path) : Except Fault Disk :=
  (d.writable p).map fun loc => if (d.entryAt? loc).isSome then d else d.put loc (.file .empty)

/-- Does something on the disk after the directories that a path lies in were made. -/
def withParent (d : Disk) (p : Path) (act : Disk → Except Fault Unit × Disk) : Except Fault Unit × Disk :=
  match d.makeDirectories p.parent with
  | (.error f, d) => (.error f, d)
  | (.ok (), d) => act d

/-- The disk after an attempt, or as it was when the attempt failed. -/
def keep (d : Disk) : Except Fault Disk → Except Fault Unit × Disk
  | .ok d => (.ok (), d)
  | .error f => (.error f, d)

/-- Writes a file, with the directories that it lies in. -/
def create (d : Disk) (p : Path) (text : String) : Except Fault Unit × Disk :=
  d.withParent p fun d => d.keep (d.writeText p text)

/-- Moves a file to another path, in place of the file that is there. -/
def rename (d : Disk) (source target : Path) : Except Fault Disk := do
  let bytes ← d.readBytes source
  let loc ← d.writable target
  match ← d.locate source with
  | some old => return (d.erase old).put loc (.file bytes)
  | none => .error .fileSystem

/-! ## Setting up and listing -/

/-- Puts an entry where a path leads, with the directories that it lies in. -/
def place (d : Disk) (p : Path) (e : Entry) : Except Fault Disk :=
  match d.makeDirectories p.parent with
  | (.error f, _) => .error f
  | (.ok (), d) => (d.locate p).map fun loc => d.put (loc.getD p.parts) e

/-- The files in the order in which they came, by their paths. -/
def files (d : Disk) : List (String × ByteArray) :=
  d.entries.filterMap fun e =>
    match e.2 with
    | .file bytes => some ("/".intercalate e.1, bytes)
    | .directory => none

end Disk

end ChatRelay
