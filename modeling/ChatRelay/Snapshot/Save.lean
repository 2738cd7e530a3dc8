import ChatRelay.Notice
import ChatRelay.Routine
import ChatRelay.Snapshot.Basic
import ChatRelay.TabMap

/-!
# Saving a snapshot

The state of every session in the tab map is read from the agent, one after the other, and the snapshot is written
when all are read. A session whose state cannot be read is left out and reported.

- `Save.start`, `Save.resume`: the routine. Without a state of the surface it begins with reading the one that is
  stored, and carries that forward; the tab map counts as it is when the reading of the sessions begins.
-/

namespace ChatRelay.Save

/-- What has been read so far, last first. -/
structure Progress where
  uiState : Json
  records : List SessionRecord
  failures : List StateReadFailure

/-- Where the routine waits. -/
inductive Point
  /-- For the stored snapshot, whose state of the surface is carried forward. -/
  | recalling
  /-- For the state of a session, with the bindings that are still to be read. -/
  | reading (progress : Progress) (tab session : String) (rest : TabMap)
  /-- For the snapshot to be written. -/
  | writing (progress : Progress)

/-- One step of the routine. -/
structure Turn where
  notices : List Notice
  next : Next Call Point SaveResult

/-- What came of a save that has read everything. -/
def Progress.result (p : Progress) : SaveResult := ⟨p.records.reverse.map (·.tab), p.failures.reverse⟩

/-- The snapshot of a save that has read everything. -/
def Progress.snapshot (p : Progress) (shelf : Shelf) : Snapshot := ⟨shelf.version, p.records.reverse, p.uiState⟩

/-- Reads the state of the next session, or writes the snapshot when there is none left. -/
def advance (shelf : Shelf) (progress : Progress) : TabMap → Next Call Point SaveResult
  | (tab, session) :: rest => .waiting (.readState session) (.reading progress tab session rest)
  | [] => .waiting (.updateValue shelf.key (progress.snapshot shelf).toJson) (.writing progress)

/-- Begins to read the sessions of the tab map. -/
def collect (shelf : Shelf) (tabs : TabMap) (uiState : Json) : Next Call Point SaveResult :=
  advance shelf ⟨uiState, [], []⟩ tabs

/-- Begins a save, with a state of the surface or with the stored one. -/
def start (shelf : Shelf) (tabs : TabMap) (uiState : Option Json) : Turn :=
  match uiState with
  | some ui => ⟨[], collect shelf tabs ui⟩
  | none => ⟨[], .waiting (.getValue shelf.key) .recalling⟩

/-- The session could not be read: it is left out. -/
def Progress.fail (p : Progress) (tab session : String) (f : Fault) : Progress :=
  { p with failures := ⟨tab, session, f.text⟩ :: p.failures }

/-- The state of a session was read. -/
def Progress.add (p : Progress) (tab session : String) (state : Json) : Progress :=
  { p with records := ⟨tab, session, state⟩ :: p.records }

/-- Goes on with an answer. -/
def resume (shelf : Shelf) (tabs : TabMap) : Point → Except Fault Answer → Turn
  | .recalling, .ok a => ⟨[], collect shelf tabs (shelf.storedUiState a.toValue)⟩
  | .recalling, .error f => ⟨[], .finished (.error f)⟩
  | .reading progress tab session rest, .ok a => ⟨[], advance shelf (progress.add tab session a.toValue) rest⟩
  | .reading progress tab session rest, .error f =>
    ⟨[.stateUnreadable session tab f.text], advance shelf (progress.fail tab session f) rest⟩
  | .writing progress, .ok _ =>
    ⟨[.snapshotSaved shelf.version progress.records.length progress.failures.length],
      .finished (.ok progress.result)⟩
  | .writing _, .error f => ⟨[], .finished (.error f)⟩

end ChatRelay.Save
