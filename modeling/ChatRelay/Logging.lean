import ChatRelay.Files.Disk
import ChatRelay.Text.Case

/-!
# Setting up the log

- `Logging.rank`: the rank that a level name sets, in any case. A name that is none sets the usual rank;
- `Logging.configure`: makes the log file ready, if there is to be one. Its name ends at a null character.
-/

namespace ChatRelay.Logging

/-- The names of the levels. -/
def ranks : List (String × Int) :=
  [("CRITICAL", 50), ("FATAL", 50), ("ERROR", 40), ("WARN", 30), ("WARNING", 30), ("INFO", 20), ("DEBUG", 10),
    ("NOTSET", 0)]

/-- The rank that a level name sets. -/
def rank (level : String) : Int := (Assoc.get? (Text.upper level) ranks).getD 20

/-- Makes the log file ready. -/
def configure (d : Disk) (file : Option Path) : Except Fault Unit × Disk :=
  match file with
  | some path => d.withParent path fun d => d.keep (d.touch path.cutName)
  | none => (.ok (), d)

end ChatRelay.Logging
