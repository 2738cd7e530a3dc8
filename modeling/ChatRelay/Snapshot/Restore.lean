import ChatRelay.Notice
import ChatRelay.Routine
import ChatRelay.Snapshot.Basic
import ChatRelay.TabMap

/-!
# Restoring a snapshot

The stored records are taken one after the other. A tab that is bound already keeps its live session; any other has
its session resumed by the agent and is bound to it. A value of another version is removed from the store.

- `Restore.start`, `Restore.resume`: the routine, which binds tabs as their sessions are resumed.
-/

namespace ChatRelay.Restore

/-- What has been restored so far, last first. -/
structure Progress where
  uiState : Json
  tabs : List String
  failures : List ResumeFailure

/-- Where the routine waits. -/
inductive Point
  /-- For the stored value. -/
  | reading
  /-- For a value of another version to be removed. -/
  | discarding (found : Json)
  /-- For a session to be resumed, with the records that are still to be taken. -/
  | resuming (progress : Progress) (tab session : String) (rest : List (String × Json))

/-- One step of the routine: the tab map after it, what there is to report, and how it goes on. -/
structure Turn where
  tabs : TabMap
  notices : List Notice
  next : Next Call Point Restoration

/-- The session that a well-formed record names. -/
def recordSession? (record : Json) : Option String := (record.get? "sessionId").bind Json.str?

/-- A record without a session is skipped and reported. -/
def Progress.skip (p : Progress) (tab : String) : Progress :=
  { p with failures := ⟨tab, none, "malformed session record"⟩ :: p.failures }

/-- The session of a record could not be resumed. -/
def Progress.fail (p : Progress) (tab session : String) (f : Fault) : Progress :=
  { p with failures := ⟨tab, some session, f.text⟩ :: p.failures }

/-- A tab has its session. -/
def Progress.add (p : Progress) (tab : String) : Progress := { p with tabs := tab :: p.tabs }

/-- A turn with more to report in front. -/
def Turn.report (t : Turn) (notices : List Notice) : Turn := { t with notices := notices ++ t.notices }

/-- Takes the records up to the next session that has to be resumed, or to the end. -/
def advance (tabs : TabMap) (progress : Progress) : List (String × Json) → Turn
  | [] =>
    ⟨tabs, [.restored progress.tabs.length],
      .finished (.ok (.restored progress.uiState progress.tabs.reverse progress.failures.reverse))⟩
  | (tab, record) :: rest =>
    match recordSession? record with
    | none => (advance tabs (progress.skip tab) rest).report [.recordSkipped tab]
    | some session =>
      match tabs.session? tab with
      | some live =>
        (advance tabs (progress.add tab) rest).report (if live = session then [] else [.tabLive tab live session])
      | none =>
        ⟨tabs, [], .waiting (.resumeSession session (record.getD "state")) (.resuming progress tab session rest)⟩

/-- The record of a tab that has its session leaves nothing to do. -/
theorem advance_bound {tabs : TabMap} {r : SessionRecord} (h : tabs.session? r.tab = some r.session)
    (progress : Progress) (rest : List (String × Json)) :
    advance tabs progress (Snapshot.recordMember r :: rest) = advance tabs (progress.add r.tab) rest := by
  simp [advance, Snapshot.recordMember, recordSession?, Json.get?, Json.str?, h, Turn.report]

/-- The session of a tab that has none is resumed. -/
theorem advance_unbound {tabs : TabMap} {r : SessionRecord} (h : tabs.session? r.tab = none)
    (progress : Progress) (rest : List (String × Json)) :
    advance tabs progress (Snapshot.recordMember r :: rest) =
      ⟨tabs, [], .waiting (.resumeSession r.session r.state) (.resuming progress r.tab r.session rest)⟩ := by
  simp [advance, Snapshot.recordMember, recordSession?, Json.get?, Json.getD, Json.str?, h]

/-- Begins with reading the stored value. -/
def start (shelf : Shelf) (tabs : TabMap) : Turn := ⟨tabs, [], .waiting (.getValue shelf.key) .reading⟩

/-- The records of a stored snapshot. Sessions that are no object count as none. -/
def storedRecords (stored : Json) : List (String × Json) :=
  match stored.getD "sessions" with
  | .obj members => members
  | _ => []

@[simp] theorem storedRecords_toJson (s : Snapshot) : storedRecords s.toJson = s.records.map Snapshot.recordMember := by
  simp [storedRecords]

/-- Goes on with the stored value. -/
def read (shelf : Shelf) (tabs : TabMap) (stored : Json) : Turn :=
  match stored with
  | .obj _ =>
    let found := stored.getD "version"
    if shelf.isCurrent found then advance tabs ⟨stored.getD "uiState", [], []⟩ (storedRecords stored)
    else ⟨tabs, [.snapshotDiscarded found shelf.version], .waiting (.deleteValue shelf.key) (.discarding found)⟩
  | .null => ⟨tabs, [], .finished (.ok .noState)⟩
  | _ => ⟨tabs, [.snapshotNotObject], .finished (.ok .noState)⟩

/-- A snapshot of the shelf is restored from its records. -/
theorem read_toJson (shelf : Shelf) (tabs : TabMap) (records : List SessionRecord) (ui : Json) :
    read shelf tabs (Snapshot.mk shelf.version records ui).toJson =
      advance tabs ⟨ui, [], []⟩ (records.map Snapshot.recordMember) := by
  show (if shelf.isCurrent ((Snapshot.mk shelf.version records ui).toJson.getD "version") then
    advance tabs ⟨(Snapshot.mk shelf.version records ui).toJson.getD "uiState", [], []⟩
      (storedRecords (Snapshot.mk shelf.version records ui).toJson) else _) = _
  simp

/-- Goes on with an answer. -/
def resume (shelf : Shelf) (tabs : TabMap) : Point → Except Fault Answer → Turn
  | .reading, .ok a => read shelf tabs a.toValue
  | .reading, .error f => ⟨tabs, [], .finished (.error f)⟩
  | .discarding found, .ok _ => ⟨tabs, [], .finished (.ok (.versionMismatch found shelf.version))⟩
  | .discarding _, .error f => ⟨tabs, [], .finished (.error f)⟩
  | .resuming progress tab session rest, .ok _ =>
    (advance (tabs.bind tab session) (progress.add tab) rest).report (tabs.bindNotices tab session)
  | .resuming progress tab session rest, .error f =>
    (advance tabs (progress.fail tab session f) rest).report [.resumeFailed session tab f.text]

end ChatRelay.Restore
