import ChatRelay.CommandLine.Run

/-!
# The program

- `main`: runs a command line on the files below the working directory.

The files that the command may touch are read first, the run itself is a function of them, and what it changed is
written back. There is no server to hand the chat to, so a command that would serve ends as it does without one.
-/

namespace ChatRelay.CommandLine

/-- What stands at a path. What is there and cannot be read counts as a directory. -/
def readEntry (path : String) : IO (Option Entry) :=
  try
    return some (.file (← IO.FS.readBinFile path))
  catch
    | .noFileOrDirectory .. => return none
    | _ => return some .directory

/-- Takes what stands at a path onto a disk. -/
def fetch (d : Disk) (path : Path) : IO Disk := do
  if path.slashes ≠ 0 then return d
  match ← readEntry path.toString with
  | some e => return (d.place path e).toOption.getD d
  | none => return d

/-- The disk with the files that a command may touch. -/
def gather [Host] (a : Arguments) : IO Disk := do
  let .ok config := prefsPath a | return .empty
  let d ← fetch .empty config
  let p := (setUp d a).2.prefs
  ([p.storage.path] ++ p.logging.file.toList).foldlM fetch d

/-- Writes a file that a run has changed. -/
def store (before : Disk) (path : String) (bytes : ByteArray) : IO Unit := do
  let p := Path.ofString path
  match before.readBytes p with
  | .ok old => if old.data = bytes.data then return
  | .error _ => IO.FS.createDirAll p.parent.toString
  IO.FS.writeBinFile path bytes

/-- The exit code of a run. -/
def Ending.code : Ending → UInt32
  | .exit code => code.toUInt32
  | .returned => 0
  | .failed _ => 1

/-- The home directory that a text names. One that is not absolute is none. -/
def home? (text : String) : Option Home := if h : text.toList.head? = some '/' then some ⟨text, h⟩ else none

/-- The users that the lines of the user database name, with their home directories. -/
def users (lines : List String) : List (String × Home) :=
  lines.filterMap fun line =>
    match line.splitOn ":" with
    | name :: _ :: _ :: _ :: _ :: dir :: _ => (home? dir).map (name, ·)
    | _ => none

/-- The machine that the program runs on. -/
def host : IO Host := do
  let lines ← try IO.FS.lines "/etc/passwd" catch _ => pure #[]
  return .usual (((← IO.getEnv "HOME").bind home?).getD ⟨"/", rfl⟩) (users lines.toList)

/-- Runs a command line on the files below the working directory. -/
def perform [Host] (args : List String) : IO UInt32 := do
  let before ← match Arguments.parse args with
    | .ok a => gather a
    | .error _ => pure .empty
  let report := run before args .notInstalled
  for (path, bytes) in report.disk.files do
    store before path bytes
  for notice in report.notices do
    IO.eprintln notice.line
  IO.print report.output
  return report.ending.code

end ChatRelay.CommandLine

/-- The program. -/
def main (args : List String) : IO UInt32 := ChatRelay.CommandLine.host >>= fun _ => ChatRelay.CommandLine.perform args
