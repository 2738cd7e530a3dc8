import ChatRelay.Proofs.Restart.Transparency
import ChatRelay.Snapshot.Restore
import ChatRelay.Snapshot.Save

/-!
# What was saved is restored

A snapshot is written by one routine and read by another one, perhaps in another process, with an agent of its own.
Between them lie optional members, sessions that could not be read, and for a store in a file a JSON text.

- `Agent`: what saving and restoring need of an agent, which may fail for any session at any time;
- `Agent.Saves`, `Agent.Restores`: the two routines among an agent and a store;
- `Agent.Saves.spec`: what a save that succeeds leaves;
- `Agent.restores_iff`: what a restore of a snapshot comes to when every session can be resumed;
- `Agent.saved_is_restored`: the round trip.
-/

namespace ChatRelay

/-! ## Agents -/

/-- An agent that reports the states of its sessions and rebuilds sessions from states. A state that it reports has no
object with a key twice. -/
structure Agent (α : Type) where
  report : α → String → Except Fault Json × α
  rebuild : α → String → Json → Except Fault Unit × α
  distinct : ∀ {a session state}, (report a session).1 = .ok state → state.Distinct

namespace Agent

variable {α β : Type} (agent : Agent α)

section

variable [Host]

/-- What an agent and a store answer to the calls of saving and of restoring. -/
inductive Answers : Storage × α → Call → Except Fault Answer → Storage × α → Prop
  | readState (s : Storage) (a : α) (session : String) :
      Answers (s, a) (.readState session) ((agent.report a session).1.map .value) (s, (agent.report a session).2)
  | resumeSession (s : Storage) (a : α) (session : String) (state : Json) :
      Answers (s, a) (.resumeSession session state) ((agent.rebuild a session state).1.map fun _ => .done)
        (s, (agent.rebuild a session state).2)
  | getValue (s : Storage) (a : α) (key : String) : Answers (s, a) (.getValue key) ((s.get key).1.map .value) (s, a)
  | updateValue (s : Storage) (a : α) (key : String) (value : Json) :
      Answers (s, a) (.updateValue key value) ((s.update key value).1.map fun _ => .done)
        ((s.update key value).2.1, a)
  | deleteValue (s : Storage) (a : α) (key : String) :
      Answers (s, a) (.deleteValue key) ((s.delete key).1.map fun _ => .done) ((s.delete key).2.1, a)

theorem Answers.unique {agent : Agent α} {w w' w'' : Storage × α} {call : Call} {x x' : Except Fault Answer}
    (h : agent.Answers w call x w') (h' : agent.Answers w call x' w'') : x = x' ∧ w' = w'' := by
  cases h <;> cases h' <;> exact ⟨rfl, rfl⟩

/-- The rest of a save, from a turn to its end. -/
abbrev SaveRuns (shelf : Shelf) (tabs : TabMap) : Save.Turn → Storage × α → List (Call × Except Fault Answer) →
    Save.Turn → Storage × α → Except Fault SaveResult → Prop :=
  Runs Save.Turn.next (fun _ => Save.resume shelf tabs) agent.Answers

/-- The rest of a restore, from a turn to its end. -/
abbrev RestoreRuns (shelf : Shelf) : Restore.Turn → Storage × α → List (Call × Except Fault Answer) → Restore.Turn →
    Storage × α → Except Fault Restoration → Prop :=
  Runs Restore.Turn.next (fun t => Restore.resume shelf t.tabs) agent.Answers

/-- A save that is given a state of the surface, from its start to its end. -/
def Saves (shelf : Shelf) (tabs : TabMap) (ui : Json) (w : Storage × α) (dialogue : List (Call × Except Fault Answer))
    (w' : Storage × α) (result : Except Fault SaveResult) : Prop :=
  ∃ t, agent.SaveRuns shelf tabs (Save.start shelf tabs (some ui)) w dialogue t w' result

/-- A restore, from its start to its end, with the tabs that are bound before and after it. -/
def Restores (shelf : Shelf) (tabs : TabMap) (w : Storage × α) (dialogue : List (Call × Except Fault Answer))
    (tabs' : TabMap) (w' : Storage × α) (result : Except Fault Restoration) : Prop :=
  ∃ t, t.tabs = tabs' ∧ agent.RestoreRuns shelf (Restore.start shelf tabs) w dialogue t w' result

end

/-! ## Reports -/

/-- What an agent reports of the sessions of some bindings, one after the other. -/
def reports (a : α) : TabMap → List ((String × String) × Except Fault Json)
  | [] => []
  | b :: rest => (b, (agent.report a b.2).1) :: reports (agent.report a b.2).2 rest

/-- There is one report for each binding. -/
theorem reports_bindings (a : α) (tabs : TabMap) : (agent.reports a tabs).map (·.1) = tabs := by
  induction tabs generalizing a with
  | nil => rfl
  | cons b rest ih => simp [reports, ih]

end Agent

/-- The binding that a record is of. -/
def SessionRecord.binding (r : SessionRecord) : String × String := (r.tab, r.session)

/-- The call for the session of a record to be resumed, which succeeds. -/
def SessionRecord.resumption (r : SessionRecord) : Call × Except Fault Answer :=
  (.resumeSession r.session r.state, .ok .done)

/-- The record of a session whose state was reported. -/
def record? : (String × String) × Except Fault Json → Option SessionRecord
  | (b, .ok state) => some ⟨b.1, b.2, state⟩
  | (_, .error _) => none

/-- The failure of a session whose state could not be read. -/
def readFailure? : (String × String) × Except Fault Json → Option StateReadFailure
  | (_, .ok _) => none
  | (b, .error f) => some ⟨b.1, b.2, f.text⟩

/-! ## Saving -/

namespace Save

/-- The progress of a save after some more reports. -/
def Progress.after (p : Progress) (reports : List ((String × String) × Except Fault Json)) : Progress :=
  ⟨p.uiState, (reports.filterMap record?).reverse ++ p.records, (reports.filterMap readFailure?).reverse ++ p.failures⟩

theorem Progress.after_add (p : Progress) (b : String × String) (state : Json)
    (reports : List ((String × String) × Except Fault Json)) :
    (p.add b.1 b.2 state).after reports = p.after ((b, .ok state) :: reports) := by
  simp [after, add, List.filterMap_cons, record?, readFailure?]

theorem Progress.after_fail (p : Progress) (b : String × String) (f : Fault)
    (reports : List ((String × String) × Except Fault Json)) :
    (p.fail b.1 b.2 f).after reports = p.after ((b, .error f) :: reports) := by
  simp [after, fail, List.filterMap_cons, record?, readFailure?]

end Save

namespace Snapshot

/-- The value that is stored has no key twice when the tabs are different. -/
theorem distinct_toJson {s : Snapshot} (htabs : (s.records.map (·.tab)).Nodup)
    (hstates : ∀ r ∈ s.records, r.state.Distinct) (hui : s.uiState.Distinct) : s.toJson.Distinct := by
  have hsessions : (Json.obj (s.records.map recordMember)).Distinct := by
    constructor
    · simpa [Assoc.keys, recordMember, Function.comp_def] using htabs
    · refine Json.distinctMembers_iff.2 fun m hm => ?_
      obtain ⟨r, hr, rfl⟩ := List.mem_map.1 hm
      simp [recordMember, Json.Distinct, Json.DistinctMembers, Assoc.keys, hstates r hr]
  have hversion : (Json.int s.version).Distinct := trivial
  unfold toJson
  split
  · exact ⟨by simp [Assoc.keys], hversion, hsessions, trivial⟩
  · exact ⟨by simp [Assoc.keys], hversion, hsessions, hui, trivial⟩

end Snapshot

namespace Agent

variable {α : Type} {agent : Agent α} {shelf : Shelf} {tabs : TabMap} {s : Storage} {a : α}

/-- A save that succeeds has read what is left to read, and the store has taken the snapshot. -/
theorem update_of_advance [Host] {rest : TabMap} {progress : Save.Progress} {notices : List Notice}
    {asked : List (Call × Except Fault Answer)} {t : Save.Turn} {w : Storage × α} {result : SaveResult}
    (h : agent.SaveRuns shelf tabs ⟨notices, Save.advance shelf progress rest⟩ (s, a) asked t w (.ok result)) :
    result = (progress.after (agent.reports a rest)).result ∧ ∃ notices',
      s.update shelf.key ((progress.after (agent.reports a rest)).snapshot shelf).toJson = (.ok (), w.1, notices') := by
  induction rest generalizing progress notices a asked with
  | nil =>
    cases h with
    | finished hn => cases hn
    | waiting hn ha hrest =>
      cases hn
      cases ha
      rcases hupdate : s.update shelf.key (progress.snapshot shelf).toJson with ⟨f | _, s', notices'⟩
      · rw [hupdate] at hrest
        cases hrest with
        | finished hn => cases hn
        | waiting hn => cases hn
      · rw [hupdate] at hrest
        cases hrest with
        | finished hn =>
          cases hn
          exact ⟨rfl, notices', hupdate⟩
        | waiting hn => cases hn
  | cons b rest ih =>
    cases h with
    | finished hn => cases hn
    | waiting hn ha hrest =>
      cases hn
      cases ha
      rcases hreport : agent.report a b.2 with ⟨f | state, a'⟩
      · rw [hreport] at hrest
        simpa only [reports, hreport, Save.Progress.after_fail] using ih hrest
      · rw [hreport] at hrest
        simpa only [reports, hreport, Save.Progress.after_add, Answer.toValue] using ih hrest

/-- The records of the sessions whose states an agent reports. -/
def records (agent : Agent α) (a : α) (tabs : TabMap) : List SessionRecord := (agent.reports a tabs).filterMap record?

/-- The failures of the sessions whose states an agent cannot report. -/
def readFailures (agent : Agent α) (a : α) (tabs : TabMap) : List StateReadFailure :=
  (agent.reports a tabs).filterMap readFailure?

/-- The tabs of the records are some of the tabs, in their order. -/
theorem sublist_records (agent : Agent α) (a : α) (tabs : TabMap) :
    ((agent.records a tabs).map (·.tab)).Sublist (Assoc.keys tabs) := by
  have hall (reports : List ((String × String) × Except Fault Json)) :
      ((reports.filterMap record?).map (·.tab)).Sublist (Assoc.keys (reports.map (·.1))) := by
    induction reports with
    | nil => exact .slnil
    | cons report rest ih =>
      obtain ⟨b, f | state⟩ := report
      · exact ih.cons b.1
      · exact ih.cons_cons b.1
  have htabs := hall (agent.reports a tabs)
  rwa [reports_bindings] at htabs

theorem distinct_records (agent : Agent α) (a : α) (tabs : TabMap) : ∀ r ∈ agent.records a tabs, r.state.Distinct := by
  unfold records
  induction tabs generalizing a with
  | nil => simp [reports]
  | cons b rest ih =>
    rcases hreport : agent.report a b.2 with ⟨f | state, a'⟩
    · simpa [reports, hreport, List.filterMap_cons, record?] using ih a'
    · have hstate : state.Distinct := agent.distinct (congrArg Prod.fst hreport)
      simpa [reports, hreport, List.filterMap_cons, record?, hstate] using ih a'

section

variable [Host]

/-- What a save that succeeds comes to: every session that could be read is in the snapshot that the store has from
then on, and every other one is reported. -/
theorem Saves.spec {ui : Json} {asked : List (Call × Except Fault Answer)} {w : Storage × α} {result : SaveResult}
    (htabs : (Assoc.keys tabs).Nodup) (hui : ui.Distinct) (hdisk : (Assoc.keys s.disk.entries).Nodup)
    (h : agent.Saves shelf tabs ui (s, a) asked w (.ok result)) :
    result = ⟨(agent.records a tabs).map (·.tab), agent.readFailures a tabs⟩ ∧
      (w.1.get shelf.key).1 = .ok (Snapshot.mk shelf.version (agent.records a tabs) ui).toJson := by
  obtain ⟨t, hrun⟩ := h
  obtain ⟨rfl, notices, hupdate⟩ := update_of_advance hrun
  have hsnapshot : (Save.Progress.after ⟨ui, [], []⟩ (agent.reports a tabs)).snapshot shelf =
      ⟨shelf.version, agent.records a tabs, ui⟩ := by
    simp [Save.Progress.snapshot, Save.Progress.after, records]
  refine ⟨by simp [Save.Progress.result, Save.Progress.after, records, readFailures], ?_⟩
  rw [hsnapshot] at hupdate
  have hdistinct : (Snapshot.mk shelf.version (agent.records a tabs) ui).toJson.Distinct :=
    Snapshot.distinct_toJson ((agent.sublist_records a tabs).nodup htabs) (agent.distinct_records a tabs) hui
  exact Storage.get_of_update hdisk hdistinct rfl hupdate

/-! ## Restoring -/

/-- An agent after sessions were rebuilt, one after the other. -/
def rebuilt (agent : Agent α) (a : α) (records : List SessionRecord) : α :=
  records.foldl (fun a r => (agent.rebuild a r.session r.state).2) a

/-- The sessions of tabs that are not bound yet are resumed one after the other. -/
theorem runs_advance (hrebuild : ∀ a session state, (agent.rebuild a session state).1 = .ok ()) (shelf : Shelf)
    (s : Storage) (a : α) (tabs : TabMap) {records : List SessionRecord}
    (hnew : (Assoc.keys tabs ++ records.map (·.tab)).Nodup) (progress : Restore.Progress) (notices : List Notice) :
    ∃ t, t.tabs = tabs ++ records.map (·.binding) ∧
      agent.RestoreRuns shelf ((Restore.advance tabs progress (records.map Snapshot.recordMember)).report notices)
        (s, a) (records.map (·.resumption)) t (s, agent.rebuilt a records)
        (.ok (.restored progress.uiState (progress.tabs.reverse ++ records.map (·.tab))
          progress.failures.reverse)) := by
  induction records generalizing tabs progress notices a with
  | nil =>
    refine ⟨_, ?_, .finished ?_⟩
    · simp [Restore.Turn.report, Restore.advance]
    · simp [Restore.Turn.report, Restore.advance]
  | cons r rest ih =>
    have hunbound : r.tab ∉ Assoc.keys tabs := by
      intro hbound
      exact List.nodup_append.1 hnew |>.2.2 _ hbound _ List.mem_cons_self rfl
    have hbind : tabs.bind r.tab r.session = tabs ++ [(r.tab, r.session)] :=
      Assoc.put_of_not_mem _ _ hunbound
    have hnew' : (Assoc.keys (tabs ++ [(r.tab, r.session)]) ++ rest.map (·.tab)).Nodup := by
      simpa [Assoc.keys] using hnew
    obtain ⟨t, htabs, hrun⟩ := ih (agent.rebuild a r.session r.state).2 _ hnew' (progress.add r.tab)
      (tabs.bindNotices r.tab r.session)
    have hanswer : agent.Answers (s, a) (.resumeSession r.session r.state) _ _ := .resumeSession s a r.session r.state
    rw [hrebuild] at hanswer
    refine ⟨t, by simpa [SessionRecord.binding] using htabs, ?_⟩
    rw [List.map_cons, Restore.advance_unbound (Assoc.get?_eq_none hunbound)]
    refine .waiting rfl hanswer ?_
    simpa [Restore.resume, Restore.Turn.report, hbind, Restore.Progress.add, rebuilt] using hrun

/-- A snapshot is restored in one way when its tabs are different, none of them is bound and every session can be
resumed. -/
theorem restores_iff (hrebuild : ∀ a session state, (agent.rebuild a session state).1 = .ok ())
    {records : List SessionRecord} (hnew : (records.map (·.tab)).Nodup) {ui : Json}
    (hstored : (s.get shelf.key).1 = .ok (Snapshot.mk shelf.version records ui).toJson)
    {asked : List (Call × Except Fault Answer)} {tabs' : TabMap} {w : Storage × α} {result : Except Fault Restoration} :
    agent.Restores shelf [] (s, a) asked tabs' w result ↔
      asked = (.getValue shelf.key, .ok (.value (Snapshot.mk shelf.version records ui).toJson)) ::
          records.map (·.resumption) ∧
        tabs' = records.map (·.binding) ∧ w = (s, agent.rebuilt a records) ∧
        result = .ok (.restored ui (records.map (·.tab)) []) := by
  obtain ⟨t, htabs, hrun⟩ := runs_advance hrebuild shelf s a [] hnew ⟨ui, [], []⟩ []
  have hanswer : agent.Answers (s, a) (.getValue shelf.key) _ _ := .getValue s a shelf.key
  rw [hstored] at hanswer
  have hread : Restore.resume shelf [] .reading (.ok (.value (Snapshot.mk shelf.version records ui).toJson)) =
      (Restore.advance [] ⟨ui, [], []⟩ (records.map Snapshot.recordMember)).report [] :=
    Restore.read_toJson shelf [] records ui
  have hwhole : agent.RestoreRuns shelf (Restore.start shelf []) (s, a) _ t (s, agent.rebuilt a records)
    (.ok (.restored ui (records.map (·.tab)) [])) := .waiting rfl hanswer (hread ▸ hrun)
  constructor
  · rintro ⟨t', rfl, hrun'⟩
    obtain ⟨rfl, rfl, rfl, rfl⟩ := Runs.unique (R := agent.Answers) Answers.unique hrun' hwhole
    exact ⟨rfl, htabs, rfl, rfl⟩
  · rintro ⟨rfl, rfl, rfl, rfl⟩
    exact ⟨t, htabs, hwhole⟩

/-! ## The round trip -/

/-- **What was saved is restored.** Let a save succeed, whatever sessions could not be read. A restore from the same
store with an empty tab map, by an agent that resumes every session, brings back the state of the surface and the tabs
that were saved, in their order and with no failure. It binds them to their sessions and has resumed each session
once, from the state that was reported. -/
theorem saved_is_restored {β : Type} {revived : Agent β}
    (hrebuild : ∀ b session state, (revived.rebuild b session state).1 = .ok ()) {ui : Json}
    {asked : List (Call × Except Fault Answer)} {w : Storage × α} {result : SaveResult}
    (htabs : (Assoc.keys tabs).Nodup) (hui : ui.Distinct) (hdisk : (Assoc.keys s.disk.entries).Nodup)
    (hsave : agent.Saves shelf tabs ui (s, a) asked w (.ok result)) :
    result = ⟨(agent.records a tabs).map (·.tab), agent.readFailures a tabs⟩ ∧
      ∀ b asked' tabs' w' restoration, revived.Restores shelf [] (w.1, b) asked' tabs' w' restoration ↔
        asked' = (.getValue shelf.key, .ok (.value (Snapshot.mk shelf.version (agent.records a tabs) ui).toJson)) ::
            (agent.records a tabs).map (·.resumption) ∧
          tabs' = (agent.records a tabs).map (·.binding) ∧
          w' = (w.1, revived.rebuilt b (agent.records a tabs)) ∧
          restoration = .ok (.restored ui result.savedTabs []) := by
  obtain ⟨rfl, hstored⟩ := hsave.spec htabs hui hdisk
  refine ⟨rfl, fun b asked' tabs' w' restoration => ?_⟩
  exact restores_iff hrebuild ((agent.sublist_records a tabs).nodup htabs) hstored

end

/-- An agent that cannot read one session and forgets nothing else. -/
def forgetful : Agent Unit where
  report _ session := (if session = "lost" then .error (.backend .runtime (some "gone")) else .ok (.str session), ())
  rebuild _ _ _ := (.ok (), ())
  distinct {_ session state} h := by
    split at h
    · cases h
    · obtain rfl := Except.ok.inj h
      trivial

section

attribute [local instance] Host.sample

/-- One of two sessions is saved to a new file and restored from it. -/
theorem saved_is_restored_partly : ∃ asked storage,
    forgetful.Saves ⟨"chat", 1⟩ [("a", "kept"), ("b", "lost")] (.bool true) (Coordinator.newFile, ()) asked
      (storage, ()) (.ok ⟨["a"], [⟨"b", "lost", "gone"⟩]⟩) ∧
    ∃ stored, forgetful.Restores ⟨"chat", 1⟩ [] (storage, ())
      [(.getValue "chat", .ok (.value stored)), (.resumeSession "kept" (.str "kept"), .ok .done)] [("a", "kept")]
      (storage, ()) (.ok (.restored (.bool true) ["a"] [])) := by
  have hstate : Coordinator.newFile.Takes 1 (Snapshot.mk 1 [⟨"a", "kept", .str "kept"⟩] (.bool true)).toJson :=
    ⟨Snapshot.distinct_toJson (by simp) (by simp [Json.Distinct]) trivial, by decide⟩
  obtain ⟨storage, notices, hupdate, -, -⟩ := Storage.update_of_holds Coordinator.holds_newFile "chat" hstate
  have hanswer : forgetful.Answers (Coordinator.newFile, ())
      (.updateValue "chat" (Snapshot.mk 1 [⟨"a", "kept", .str "kept"⟩] (.bool true)).toJson) _ _ := .updateValue _ _ _ _
  rw [hupdate] at hanswer
  have hsave : forgetful.Saves ⟨"chat", 1⟩ [("a", "kept"), ("b", "lost")] (.bool true) (Coordinator.newFile, ()) _
      (storage, ()) (.ok ⟨["a"], [⟨"b", "lost", "gone"⟩]⟩) :=
    ⟨_, .waiting rfl (.readState _ _ _) (.waiting rfl (.readState _ _ _) (.waiting rfl hanswer (.finished rfl)))⟩
  have hrebuild : ∀ b session state, (forgetful.rebuild b session state).1 = .ok () := fun _ _ _ => rfl
  have hui : (Json.bool true).Distinct := trivial
  have hdisk : (Assoc.keys Coordinator.newFile.disk.entries).Nodup := List.nodup_nil
  have htrip := saved_is_restored hrebuild (by decide) hui hdisk hsave
  exact ⟨_, storage, hsave, _, (htrip.2 () _ _ _ _).2 ⟨rfl, rfl, rfl, rfl⟩⟩

end

end Agent

end ChatRelay
