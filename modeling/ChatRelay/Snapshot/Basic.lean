import ChatRelay.Json.Basic

/-!
# Snapshots

- `Shelf`: the key that the snapshot is kept under, and the version of its format;
- `Snapshot`: the state of the surface and the sessions of its tabs, and `Snapshot.toJson`, the value that is stored;
- `Shelf.current?`: the members of a stored value of the right version. The version is right only as an integer: no
  boolean and no float counts;
- `SaveResult`, `Restoration`: what came of saving and of restoring.
-/

namespace ChatRelay

/-- Where a snapshot is kept. -/
structure Shelf where
  key : String
  version : Int

/-- The usual key. -/
def Shelf.defaultKey : String := "symposium.chatState"

/-- The version of the format. -/
def Shelf.defaultVersion : Int := 1

/-- The session of one tab in a snapshot. -/
structure SessionRecord where
  tab : String
  session : String
  state : Json

/-- The state of the surface, null when there is none, and the sessions of its tabs. -/
structure Snapshot where
  version : Int
  records : List SessionRecord
  uiState : Json

namespace Snapshot

/-- A record as it is stored, under its tab. -/
def recordMember (r : SessionRecord) : String × Json :=
  (r.tab, .obj [("sessionId", .str r.session), ("state", r.state)])

/-- The value that is stored. The state of the surface is left out when it is null. -/
def toJson (s : Snapshot) : Json :=
  .obj ([("version", .int s.version), ("sessions", .obj (s.records.map recordMember))] ++
    if s.uiState.isNull then [] else [("uiState", s.uiState)])

@[simp] theorem toJson_version (s : Snapshot) : s.toJson.getD "version" = .int s.version := rfl

@[simp] theorem toJson_sessions (s : Snapshot) : s.toJson.getD "sessions" = .obj (s.records.map recordMember) := rfl

@[simp] theorem toJson_uiState (s : Snapshot) : s.toJson.getD "uiState" = s.uiState := by
  obtain ⟨version, records, ui⟩ := s
  cases ui <;> rfl

end Snapshot

namespace Shelf

/-- Whether a found version is the version of the shelf. -/
def isCurrent (shelf : Shelf) : Json → Bool
  | .int n => n == shelf.version
  | _ => false

@[simp] theorem isCurrent_version (shelf : Shelf) : shelf.isCurrent (.int shelf.version) = true := by simp [isCurrent]

/-- The stored state of the surface, null when the stored value is not current. -/
def storedUiState (shelf : Shelf) (stored : Json) : Json :=
  match stored with
  | .obj _ => if shelf.isCurrent (stored.getD "version") then stored.getD "uiState" else .null
  | _ => .null

/-- The state of the surface in a snapshot of the shelf. -/
@[simp] theorem storedUiState_toJson (shelf : Shelf) (records : List SessionRecord) (ui : Json) :
    shelf.storedUiState (Snapshot.mk shelf.version records ui).toJson = ui := by
  show (if shelf.isCurrent ((Snapshot.mk shelf.version records ui).toJson.getD "version") then
    (Snapshot.mk shelf.version records ui).toJson.getD "uiState" else .null) = ui
  simp

end Shelf

/-- A session whose state could not be read. -/
structure StateReadFailure where
  tab : String
  session : String
  error : String

/-- What came of saving: the tabs whose sessions were saved, and those left out. -/
structure SaveResult where
  savedTabs : List String
  failures : List StateReadFailure

/-- Nothing was saved. -/
def SaveResult.nothing : SaveResult := ⟨[], []⟩

/-- A stored record whose session could not be resumed. -/
structure ResumeFailure where
  tab : String
  session : Option String
  error : String

/-- What came of restoring. -/
inductive Restoration
  /-- Nothing was stored. -/
  | noState
  /-- The stored value had another version and was removed. -/
  | versionMismatch (found : Json) (expected : Int)
  | restored (uiState : Json) (tabs : List String) (failures : List ResumeFailure)

/-- The state of the surface that restoring brought back, null when there is none. -/
def Restoration.uiState : Restoration → Json
  | .restored ui _ _ => ui
  | _ => .null

end ChatRelay
