import ChatRelay.Files.Path
import ChatRelay.Json.Basic
import ChatRelay.Snapshot.Basic

/-!
# Preferences

- `Preferences`: what a user can set, in four sections;
- `Preferences.default`: what holds where nothing is set;
- `Preferences.toJson`: the preferences in a form to look at.
-/

namespace ChatRelay

/-- Where the web surface listens. -/
structure ServerPreferences where
  host : String
  port : Int

/-- Where the snapshot is kept. -/
structure StoragePreferences where
  path : Path
  stateKey : String

/-- Which agent responds. -/
structure AgentPreferences where
  name : String
  /-- Seconds between the chunks of the echo agent. -/
  chunkDelay : Binary64

/-- What is logged, and the file that it goes to besides the terminal. -/
structure LoggingPreferences where
  level : String
  file : Option Path

/-- What a user can set. -/
structure Preferences where
  server : ServerPreferences
  storage : StoragePreferences
  agent : AgentPreferences
  logging : LoggingPreferences

namespace Preferences

section

variable [Host]

/-- The directory of the program below the home directory. -/
def directory : Path := Path.home.below [".symposium"]

/-- The usual file of preferences. -/
def usualPath : Path := directory.below ["chat-preferences.yaml"]

/-- What holds where nothing is set. -/
def default : Preferences where
  server := ⟨"127.0.0.1", 8765⟩
  storage := ⟨directory.below ["chat-state.json"], Shelf.defaultKey⟩
  agent := ⟨"echo", .ofDecimal false 2 (-2)⟩
  logging := ⟨"INFO", none⟩

end

/-- The preferences in a form to look at, with the delay as it is given. No file of logs is shown as an empty text. -/
def toJson (p : Preferences) (delay : Json) : Json :=
  .obj [
    ("server", .obj [("host", .str p.server.host), ("port", .int p.server.port)]),
    ("storage", .obj [("path", .str p.storage.path.toString), ("state_key", .str p.storage.stateKey)]),
    ("agent", .obj [("name", .str p.agent.name), ("chunk_delay", delay)]),
    ("logging", .obj [("level", .str p.logging.level), ("file", .str ((p.logging.file.map Path.toString).getD ""))])]

end Preferences

end ChatRelay
