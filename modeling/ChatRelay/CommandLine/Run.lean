import ChatRelay.Agent.Load
import ChatRelay.CommandLine.Arguments
import ChatRelay.Logging
import ChatRelay.Preferences.File
import ChatRelay.Store.KeyValue

/-!
# Running a command

- `CommandLine.run`: what a command line does: it shows or removes the stored snapshot, or serves the chat;
- `Ending`: how a run ends, and `Report`, what is seen of it.

Notices that come after the log was set up are kept only when they reach its rank.
-/

namespace ChatRelay.CommandLine

/-- How a run ends. -/
inductive Ending
  | exit (code : Nat)
  | returned
  | failed (f : Fault)

/-- How a server ends. -/
inductive ServerEnding
  | returned
  /-- Something that the server needs is not installed. -/
  | notInstalled
  /-- The user or the server itself asked for the end. -/
  | interrupted
  | failed

/-- What the server is started with. -/
structure Service where
  host : String
  port : Int
  logLevel : String
  /-- The delay of the agent. -/
  chunkDelay : Json

/-- What is seen of a run. -/
structure Report where
  ending : Ending
  output : String
  service : Option Service
  /-- The rank of the log. -/
  rank : Int
  notices : List Notice
  disk : Disk

/-- The rank of the log before it is set up. -/
def initialRank : Int := Level.debug.rank

/-- The name and the version of the program. -/
def versionLine : String := "symposium-chat 0.1.0\n"

/-- The value of an option that counts as given. -/
def given (s : Option String) : Option String := s.filter (!·.isEmpty)

/-- The preferences with the options of the command line in place of theirs. -/
def override [Host] (p : Preferences) (a : Arguments) : Except Fault Preferences := do
  let p := match given a.host with
    | some host => { p with server.host := host }
    | none => p
  let p := match a.port.filter (· ≠ 0) with
    | some port => { p with server.port := port }
    | none => p
  let p ← match given a.stateFile with
    | some file => (Path.ofString file).expandHome.map fun path => { p with storage.path := path }
    | none => .ok p
  let p := match given a.agent with
    | some name => { p with agent.name := name }
    | none => p
  return match given a.logLevel with
    | some level => { p with logging.level := Text.upper level }
    | none => p

/-- The file of preferences that the options name. -/
def prefsPath [Host] (a : Arguments) : Except Fault Path :=
  match given a.config with
  | some file => (Path.ofString file).expandHome
  | none => .ok Preferences.usualPath

/-- Everything that is settled before a command is carried out. -/
structure Setup where
  prefs : Preferences
  disk : Disk
  notices : List Notice

variable [Host]

/-- Loads the preferences and sets up the log. The first part tells what failed. -/
def setUp (d : Disk) (a : Arguments) : Option Fault × Setup :=
  match prefsPath a with
  | .error f => (some f, ⟨.default, d, []⟩)
  | .ok path =>
    match Preferences.load d path with
    | (.error f, d, notices) => (some f, ⟨.default, d, notices⟩)
    | (.ok p, d, notices) =>
      match override p a with
      | .error f => (some f, ⟨p, d, notices⟩)
      | .ok p =>
        match Logging.configure d p.logging.file with
        | (.error f, d) => (some f, ⟨p, d, notices⟩)
        | (.ok (), d) => (none, ⟨p, d, notices⟩)

namespace Setup

/-- The rank of the log. -/
def rank (s : Setup) : Int := Logging.rank s.prefs.logging.level

/-- The store that the preferences name. -/
def storage (s : Setup) : Storage := ⟨.file s.prefs.storage.path, s.disk⟩

/-- The report of a run that was set up. -/
def report (s : Setup) (ending : Ending) (output : String) (service : Option Service) (notices : List Notice)
    (disk : Disk) : Report :=
  ⟨ending, output, service, s.rank, s.notices ++ notices.filter fun n => s.rank ≤ n.level.rank, disk⟩

/-- Shows the stored snapshot. -/
def inspect (s : Setup) : Report :=
  match s.storage.get s.prefs.storage.stateKey with
  | (.ok v, notices) =>
    match v.encode with
    | .ok text => s.report (.exit 0) (text ++ "\n") none notices s.disk
    | .error f => s.report (.failed f) "" none notices s.disk
  | (.error f, notices) => s.report (.failed f) "" none notices s.disk

/-- Removes the stored snapshot. -/
def reset (s : Setup) : Report :=
  let key := s.prefs.storage.stateKey
  match s.storage.delete key with
  | (.ok (), storage, notices) =>
    s.report (.exit 0) ("Cleared " ++ key ++ " in " ++ s.prefs.storage.path.toString ++ "\n") none notices storage.disk
  | (.error f, storage, notices) => s.report (.failed f) "" none notices storage.disk

/-- Serves the chat, until the server ends. -/
def serve (s : Setup) (server : ServerEnding) : Report :=
  match AgentName.ofPreferences s.prefs.agent with
  | .error _ => s.report (.exit 1) "" none [.fatal] s.disk
  | .ok delay =>
    let service : Service := ⟨s.prefs.server.host, s.prefs.server.port, Text.lower s.prefs.logging.level, delay⟩
    match server with
    | .returned | .interrupted => s.report .returned "" (some service) [] s.disk
    | .notInstalled => s.report (.exit 1) "" (some service) [] s.disk
    | .failed => s.report (.exit 1) "" (some service) [.fatal] s.disk

end Setup

/-- Carries out a command. -/
def carryOut (d : Disk) (a : Arguments) (server : ServerEnding) : Report :=
  match setUp d a with
  | (some f, s) => ⟨.failed f, "", none, initialRank, s.notices, s.disk⟩
  | (none, s) => if a.inspectState then s.inspect else if a.resetState then s.reset else s.serve server

/-- A run that ends before anything is done. -/
def early (d : Disk) (code : Nat) (output : String) : Report := ⟨.exit code, output, none, initialRank, [], d⟩

/-- Runs a command line, with a server that ends as given. -/
def run (d : Disk) (args : List String) (server : ServerEnding) : Report :=
  match Arguments.parse args with
  | .ok a => carryOut d a server
  | .error .version => early d 0 versionLine
  | .error .help => early d 0 ""
  | .error .misuse => early d 2 ""

end ChatRelay.CommandLine
