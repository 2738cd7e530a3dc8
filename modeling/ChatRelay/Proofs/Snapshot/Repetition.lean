import ChatRelay.Proofs.Coordinator.Growth
import ChatRelay.Proofs.Snapshot.RoundTrip

/-!
# Restoring record by record, and once more

A stored value need not come from a save: its sessions can be anything, some of its tabs may be bound already, and the
agent may refuse some of the sessions. Each record is judged for itself, by the tabs that were bound before.

- `Restore.Verdict`, `Restore.verdict`: what restoring makes of one record;
- `Restore.judged`: the verdicts on all records, with what is asked, bound and told of them;
- `Agent.Refuses`: an agent that refuses some sessions, always the same;
- `Agent.restores_judged`: what a restore comes to;
- `Agent.restored_again`: a second restore asks for the refused sessions only, tells the same and changes nothing.
-/

namespace ChatRelay

open Coordinator (Bound IsSnapshot bound_bind mem_keys_iff_bound)

namespace Restore

/-! ## Verdicts -/

/-- What restoring makes of a record. -/
inductive Verdict
  /-- The record names no session. -/
  | malformed
  /-- The tab is bound, and keeps its session. -/
  | live
  /-- The session is resumed, and the tab bound to it. -/
  | resumed (r : SessionRecord)
  /-- The agent cannot resume the session. -/
  | refused (r : SessionRecord) (f : Fault)

/-- The verdict on a record, by the tabs that were bound before and the sessions that the agent refuses. -/
def verdict (fault : String → Json → Option Fault) (tabs : TabMap) (m : String × Json) : Verdict :=
  match recordSession? m.2 with
  | none => .malformed
  | some session =>
    if tabs.session? m.1 ≠ none then .live
    else
      match fault session (m.2.getD "state") with
      | none => .resumed ⟨m.1, session, m.2.getD "state"⟩
      | some f => .refused ⟨m.1, session, m.2.getD "state"⟩ f

/-- The verdicts on some records, each with its tab. -/
def judged (fault : String → Json → Option Fault) (tabs : TabMap) (records : List (String × Json)) :
    List (String × Verdict) :=
  records.map fun m => (m.1, verdict fault tabs m)

namespace Verdict

/-- The record whose session the agent is asked for, with its answer. -/
def attempt? : Verdict → Option (SessionRecord × Except Fault Answer)
  | .resumed r => some (r, .ok .done)
  | .refused r f => some (r, .error f)
  | _ => none

/-- The binding that comes of a record. -/
def binding? : Verdict → Option (String × String)
  | .resumed r => some r.binding
  | _ => none

/-- Whether the tab has a session in the end. -/
def isBound : Verdict → Bool
  | .live => true
  | .resumed _ => true
  | _ => false

/-- What is told of a record that fails. -/
def failure? (tab : String) : Verdict → Option ResumeFailure
  | .malformed => some ⟨tab, none, "malformed session record"⟩
  | .refused r f => some ⟨tab, some r.session, f.text⟩
  | _ => none

/-- The verdict on the same record when all is done. -/
def settled : Verdict → Verdict
  | .resumed _ => .live
  | v => v

section

variable (v : Verdict)

@[simp] theorem binding?_settled : v.settled.binding? = none := by cases v <;> rfl

@[simp] theorem isBound_settled : v.settled.isBound = v.isBound := by cases v <;> rfl

@[simp] theorem failure?_settled (tab : String) : v.settled.failure? tab = v.failure? tab := by cases v <;> rfl

@[simp] theorem attempt?_settled : v.settled.attempt? = v.attempt?.filter fun x => !x.2.isOk := by cases v <;> rfl

end

end Verdict

section

variable (verdicts : List (String × Verdict))

/-- The records whose sessions the agent is asked for, with its answers. -/
def attempts : List (SessionRecord × Except Fault Answer) := verdicts.filterMap (·.2.attempt?)

/-- The calls for the sessions of records, with their answers. -/
def resumptions (attempts : List (SessionRecord × Except Fault Answer)) : List (Call × Except Fault Answer) :=
  attempts.map fun x => (.resumeSession x.1.session x.1.state, x.2)

/-- The bindings that come of the records. -/
def newBindings : TabMap := verdicts.filterMap (·.2.binding?)

/-- The tabs that have a session in the end. -/
def boundTabs : List String := (verdicts.filter (·.2.isBound)).map (·.1)

/-- What is told of the records that fail. -/
def failuresOf : List ResumeFailure := verdicts.filterMap fun v => v.2.failure? v.1

variable (v : String × Verdict)

@[simp] theorem attempts_cons : attempts (v :: verdicts) = v.2.attempt?.toList ++ attempts verdicts := by
  cases h : v.2.attempt? <;> simp [attempts, h]

@[simp] theorem newBindings_cons : newBindings (v :: verdicts) = v.2.binding?.toList ++ newBindings verdicts := by
  cases h : v.2.binding? <;> simp [newBindings, h]

@[simp] theorem boundTabs_cons :
    boundTabs (v :: verdicts) = (if v.2.isBound then [v.1] else []) ++ boundTabs verdicts := by
  cases h : v.2.isBound <;> simp [boundTabs, h]

@[simp] theorem failuresOf_cons :
    failuresOf (v :: verdicts) = (v.2.failure? v.1).toList ++ failuresOf verdicts := by
  cases h : v.2.failure? v.1 <;> simp [failuresOf, h]

end

/-! ## Records and bindings -/

section

variable {fault : String → Json → Option Fault} {tabs : TabMap} {records : List (String × Json)}

section

variable {m : String × Json}

theorem verdict_malformed (h : recordSession? m.2 = none) : verdict fault tabs m = .malformed := by
  simp [verdict, h]

variable {session : String} (hsession : recordSession? m.2 = some session)
include hsession

theorem verdict_live (hb : Bound tabs m.1) : verdict fault tabs m = .live := by
  unfold Bound at hb
  simp [verdict, hsession, hb]

variable (hb : ¬Bound tabs m.1)
include hb

theorem verdict_resumed (hf : fault session (m.2.getD "state") = none) :
    verdict fault tabs m = .resumed ⟨m.1, session, m.2.getD "state"⟩ := by
  simp [verdict, hsession, not_not.1 hb, hf]

theorem verdict_refused {f : Fault} (hf : fault session (m.2.getD "state") = some f) :
    verdict fault tabs m = .refused ⟨m.1, session, m.2.getD "state"⟩ f := by
  simp [verdict, hsession, not_not.1 hb, hf]

end

/-- The tab of a record that is resumed is its own. -/
theorem tab_of_resumed {m : String × Json} {r : SessionRecord} (h : verdict fault tabs m = .resumed r) :
    r.tab = m.1 := by
  unfold verdict at h
  split at h
  · cases h
  · split at h
    · cases h
    · split at h
      · obtain rfl := Verdict.resumed.inj h
        rfl
      · cases h

/-- A verdict depends on whether its own tab is bound, and on no other. -/
theorem verdict_congr {tabs' : TabMap} {m : String × Json} (h : Bound tabs' m.1 ↔ Bound tabs m.1) :
    verdict fault tabs' m = verdict fault tabs m := by
  unfold Bound at h
  simp only [verdict, h]

theorem judged_bind {tab session : String} (h : tab ∉ Assoc.keys records) :
    judged fault (tabs.bind tab session) records = judged fault tabs records := by
  refine List.map_congr_left fun m hm => ?_
  have hne : tab ≠ m.1 := by
    rintro rfl
    exact h (List.mem_map_of_mem hm)
  rw [verdict_congr (bound_bind.trans (or_iff_right hne))]

theorem report_report (t : Turn) (notices notices' : List Notice) :
    (t.report notices').report notices = t.report (notices ++ notices') := by
  simp [Turn.report]

/-! ## When all is done -/

/-- The tabs that are bound anew are those of the records that are resumed. -/
theorem mem_keys_newBindings {tab : String} : tab ∈ Assoc.keys (newBindings (judged fault tabs records)) ↔
    ∃ m ∈ records, m.1 = tab ∧ ∃ r, verdict fault tabs m = .resumed r := by
  constructor
  · intro hmem
    obtain ⟨b, hb, rfl⟩ := List.mem_map.1 hmem
    obtain ⟨v, hv, hbinding⟩ := List.mem_filterMap.1 hb
    obtain ⟨m, hm, rfl⟩ := List.mem_map.1 hv
    dsimp only at hbinding
    cases hverdict : verdict fault tabs m with
    | resumed r =>
      rw [hverdict] at hbinding
      obtain rfl := Option.some.inj hbinding
      exact ⟨m, hm, (tab_of_resumed hverdict).symm, r, hverdict⟩
    | _ =>
      rw [hverdict] at hbinding
      cases hbinding
  · rintro ⟨m, hm, rfl, r, hverdict⟩
    refine List.mem_map.2 ⟨r.binding, List.mem_filterMap.2 ⟨_, List.mem_map_of_mem hm, ?_⟩, tab_of_resumed hverdict⟩
    simp only [hverdict, Verdict.binding?]

/-- The verdict on a record whose tab is bound exactly when it was bound before or its session was resumed. -/
theorem verdict_settled {tabs' : TabMap} {m : String × Json}
    (h : Bound tabs' m.1 ↔ Bound tabs m.1 ∨ ∃ r, verdict fault tabs m = .resumed r) :
    verdict fault tabs' m = (verdict fault tabs m).settled := by
  cases hsession : recordSession? m.2 with
  | none =>
    rw [verdict_malformed hsession, verdict_malformed hsession]
    rfl
  | some session =>
    by_cases hb : Bound tabs m.1
    · rw [verdict_live hsession (h.2 (.inl hb)), verdict_live hsession hb]
      rfl
    · cases hf : fault session (m.2.getD "state") with
      | none =>
        have hresumed := verdict_resumed hsession hb hf
        rw [verdict_live hsession (h.2 (.inr ⟨_, hresumed⟩)), hresumed]
        rfl
      | some f =>
        have hrefused := verdict_refused hsession hb hf
        have hunbound : ¬Bound tabs' m.1 := by simp [h, hb, hrefused]
        rw [verdict_congr (iff_of_false hunbound hb), hrefused]
        rfl

/-- What would be found if the same records were taken once more. -/
theorem judged_again (hrecords : (Assoc.keys records).Nodup) :
    judged fault (tabs ++ newBindings (judged fault tabs records)) records =
      (judged fault tabs records).map fun v => (v.1, v.2.settled) := by
  simp only [judged, List.map_map, Function.comp_def]
  refine List.map_congr_left fun m hm => congrArg (m.1, ·) (verdict_settled ?_)
  rw [← mem_keys_iff_bound, Assoc.keys, List.map_append, List.mem_append]
  refine or_congr mem_keys_iff_bound (mem_keys_newBindings.trans ⟨?_, fun h => ⟨m, hm, rfl, h⟩⟩)
  rintro ⟨m', hm', he, h⟩
  obtain rfl := List.inj_on_of_nodup_map hrecords hm' hm he
  exact h

section

variable (verdicts : List (String × Verdict))

theorem newBindings_settled : newBindings (verdicts.map fun v => (v.1, v.2.settled)) = [] := by
  simp [newBindings]

theorem boundTabs_settled : boundTabs (verdicts.map fun v => (v.1, v.2.settled)) = boundTabs verdicts := by
  simp [boundTabs, List.filter_map, Function.comp_def]

theorem failuresOf_settled : failuresOf (verdicts.map fun v => (v.1, v.2.settled)) = failuresOf verdicts := by
  simp [failuresOf, List.filterMap_map]

/-- The sessions that are asked for once more are those that were refused. -/
theorem attempts_settled : attempts (verdicts.map fun v => (v.1, v.2.settled)) =
    (attempts verdicts).filter fun x => !x.2.isOk := by
  simp [attempts, List.filterMap_map, List.filter_filterMap]

end

/-- A tab that is bound keeps its session when others are bound behind it. -/
theorem session?_append {tab session : String} (h : tabs.session? tab = some session) (more : TabMap) :
    TabMap.session? (tabs ++ more) tab = some session := by
  induction tabs with
  | nil => cases h
  | cons b rest ih =>
    obtain ⟨tab', session'⟩ := b
    simp only [TabMap.session?, Assoc.get?_cons, List.cons_append] at h ih ⊢
    split
    · next he => rwa [if_pos he] at h
    · next he => exact ih (by rwa [if_neg he] at h)

/-! ## Everything is told once -/

/-- Every record is told of once, with the tabs that are bound or with the failures, and both stand in the order of the
records. -/
structure Tells (tabs : List String) (failures : List ResumeFailure) (records : List String) : Prop where
  bound : tabs.Sublist records
  failed : (failures.map (·.tab)).Sublist records
  once : (tabs ++ failures.map (·.tab)).Perm records

theorem tells_verdicts (verdicts : List (String × Verdict)) :
    Tells (boundTabs verdicts) (failuresOf verdicts) (verdicts.map (·.1)) := by
  induction verdicts with
  | nil => exact ⟨.slnil, .slnil, .nil⟩
  | cons v rest ih =>
    obtain ⟨tab, v⟩ := v
    have hbound : Tells (tab :: boundTabs rest) (failuresOf rest) (tab :: rest.map (·.1)) :=
      ⟨ih.bound.cons_cons tab, ih.failed.cons tab, ih.once.cons tab⟩
    have hfailed (session : Option String) (error : String) :
        Tells (boundTabs rest) (⟨tab, session, error⟩ :: failuresOf rest) (tab :: rest.map (·.1)) :=
      ⟨ih.bound.cons tab, ih.failed.cons_cons tab, List.perm_middle.trans (ih.once.cons tab)⟩
    cases v with
    | malformed => simpa [Verdict.isBound, Verdict.failure?] using hfailed none "malformed session record"
    | live => simpa [Verdict.isBound, Verdict.failure?] using hbound
    | resumed r => simpa [Verdict.isBound, Verdict.failure?] using hbound
    | refused r f => simpa [Verdict.isBound, Verdict.failure?] using hfailed (some r.session) f.text

end

end Restore

namespace Agent

variable {α : Type} {agent : Agent α} {shelf : Shelf} {fault : String → Json → Option Fault}

/-- An agent that refuses some sessions, whatever it has done before. -/
def Refuses (agent : Agent α) (fault : String → Json → Option Fault) : Prop :=
  ∀ a session state, (agent.rebuild a session state).1 =
    match fault session state with
    | none => .ok ()
    | some f => .error f

open Restore

/-- A turn of a restore comes to what the verdicts say on the records that are left. -/
def ComesTo [Host] (agent : Agent α) (shelf : Shelf) (t : Turn) (w : Storage × α) (tabs : TabMap) (progress : Progress)
    (verdicts : List (String × Verdict)) : Prop :=
  ∃ t', t'.tabs = tabs ++ newBindings verdicts ∧
    agent.RestoreRuns shelf t w (resumptions (attempts verdicts)) t'
      (w.1, agent.rebuilt w.2 ((attempts verdicts).map (·.1)))
      (.ok (.restored progress.uiState (progress.tabs.reverse ++ boundTabs verdicts)
        (progress.failures.reverse ++ failuresOf verdicts)))

section

variable {t : Turn} {w : Storage × α} {tabs : TabMap} {progress : Progress} {verdicts : List (String × Verdict)}

theorem comesTo_malformed [Host] {tab : String} (h : agent.ComesTo shelf t w tabs (progress.skip tab) verdicts) :
    agent.ComesTo shelf t w tabs progress ((tab, .malformed) :: verdicts) := by
  simpa [ComesTo, Progress.skip, Verdict.binding?, Verdict.attempt?, Verdict.isBound, Verdict.failure?] using h

theorem comesTo_live [Host] {tab : String} (h : agent.ComesTo shelf t w tabs (progress.add tab) verdicts) :
    agent.ComesTo shelf t w tabs progress ((tab, .live) :: verdicts) := by
  simpa [ComesTo, Progress.add, Verdict.binding?, Verdict.attempt?, Verdict.isBound, Verdict.failure?] using h

variable {r : SessionRecord} {rest : List (String × Json)}
  (hnext : t.next = .waiting (.resumeSession r.session r.state) (.resuming progress r.tab r.session rest))
include hnext

/-- A restore that waits for a session goes on with the answer of the agent. -/
theorem runs_asked [Host] {b : Except Fault Answer} {asked : List (Call × Except Fault Answer)} {t' : Turn}
    {w' : Storage × α} {result : Except Fault Restoration}
    (hanswer : (agent.rebuild w.2 r.session r.state).1.map (fun _ => Answer.done) = b)
    (h : agent.RestoreRuns shelf (resume shelf t.tabs (.resuming progress r.tab r.session rest) b)
      (w.1, (agent.rebuild w.2 r.session r.state).2) asked t' w' result) :
    agent.RestoreRuns shelf t w ((.resumeSession r.session r.state, b) :: asked) t' w' result := by
  subst hanswer
  exact .waiting hnext (.resumeSession w.1 w.2 r.session r.state) h

theorem comesTo_resumed [Host] (hrebuild : (agent.rebuild w.2 r.session r.state).1 = .ok ())
    (h : agent.ComesTo shelf (resume shelf t.tabs (.resuming progress r.tab r.session rest) (.ok .done))
      (w.1, (agent.rebuild w.2 r.session r.state).2) (tabs ++ [r.binding]) (progress.add r.tab) verdicts) :
    agent.ComesTo shelf t w tabs progress ((r.tab, .resumed r) :: verdicts) := by
  obtain ⟨t', htabs, hrun⟩ := h
  have hwhole := runs_asked (b := .ok .done) hnext (congrArg (Except.map _) hrebuild) hrun
  refine ⟨t', ?_, ?_⟩
  · simpa [Verdict.binding?] using htabs
  · simpa [resumptions, Progress.add, Verdict.attempt?, Verdict.isBound, Verdict.failure?, rebuilt]
      using hwhole

theorem comesTo_refused [Host] {f : Fault} (hrebuild : (agent.rebuild w.2 r.session r.state).1 = .error f)
    (h : agent.ComesTo shelf (resume shelf t.tabs (.resuming progress r.tab r.session rest) (.error f))
      (w.1, (agent.rebuild w.2 r.session r.state).2) tabs (progress.fail r.tab r.session f) verdicts) :
    agent.ComesTo shelf t w tabs progress ((r.tab, .refused r f) :: verdicts) := by
  obtain ⟨t', htabs, hrun⟩ := h
  have hwhole := runs_asked (b := .error f) hnext (congrArg (Except.map _) hrebuild) hrun
  refine ⟨t', ?_, ?_⟩
  · simpa [Verdict.binding?] using htabs
  · simpa [resumptions, Progress.fail, Verdict.attempt?, Verdict.isBound, Verdict.failure?, rebuilt]
      using hwhole

end

/-- The records are taken one after the other, and what becomes of one does not depend on the others. -/
theorem comesTo_advance [Host] (hfault : agent.Refuses fault) (shelf : Shelf) (w : Storage × α) (tabs : TabMap)
    {records : List (String × Json)} (hrecords : (Assoc.keys records).Nodup) (progress : Progress)
    (notices : List Notice) :
    agent.ComesTo shelf ((advance tabs progress records).report notices) w tabs progress
      (judged fault tabs records) := by
  induction records generalizing tabs progress notices w with
  | nil =>
    refine ⟨_, ?_, .finished ?_⟩
    · simp [Turn.report, advance, judged, newBindings]
    · simp [Turn.report, advance, judged, boundTabs, failuresOf]
  | cons m rest ih =>
    obtain ⟨tab, record⟩ := m
    obtain ⟨hnew, hrest⟩ := List.nodup_cons.1 hrecords
    have hcons : judged fault tabs ((tab, record) :: rest) =
      (tab, verdict fault tabs (tab, record)) :: judged fault tabs rest := rfl
    rw [hcons]
    cases hsession : recordSession? record with
    | none =>
      rw [verdict_malformed hsession]
      simp only [advance, hsession, report_report]
      exact comesTo_malformed (ih w tabs hrest _ _)
    | some session =>
      cases hlive : tabs.session? tab with
      | some live =>
        have hbound : Bound tabs tab := by simp [Bound, hlive]
        rw [verdict_live hsession hbound]
        simp only [advance, hsession, hlive, report_report]
        exact comesTo_live (ih w tabs hrest _ _)
      | none =>
        let r : SessionRecord := ⟨tab, session, record.getD "state"⟩
        have hunbound : ¬Bound tabs tab := not_not.2 hlive
        have hrebuild := hfault w.2 session (record.getD "state")
        have hnext : ((advance tabs progress ((tab, record) :: rest)).report notices).next =
            .waiting (.resumeSession r.session r.state) (.resuming progress r.tab r.session rest) := by
          simp [advance, Turn.report, hsession, hlive, r]
        have htabs : ((advance tabs progress ((tab, record) :: rest)).report notices).tabs = tabs := by
          simp [advance, Turn.report, hsession, hlive]
        cases hf : fault session (record.getD "state") with
        | some f =>
          rw [hf] at hrebuild
          rw [verdict_refused hsession hunbound hf]
          refine comesTo_refused (r := r) hnext hrebuild ?_
          rw [htabs]
          exact ih _ tabs hrest _ _
        | none =>
          rw [hf] at hrebuild
          rw [verdict_resumed hsession hunbound hf]
          refine comesTo_resumed (r := r) hnext hrebuild ?_
          have hbind : tabs.bind tab session = tabs ++ [r.binding] :=
            Assoc.put_of_not_mem _ _ fun hmem => hunbound (mem_keys_iff_bound.1 hmem)
          have hgo := ih (w.1, (agent.rebuild w.2 session (record.getD "state")).2) (tabs.bind tab session) hrest
            (progress.add tab) (tabs.bindNotices tab session)
          rw [judged_bind hnew] at hgo
          rw [htabs]
          simpa [resume, hbind, r] using hgo

/-- What a restore of a snapshot comes to. -/
theorem restores_judged [Host] (hfault : agent.Refuses fault) {s : Storage} {a : α} {stored : Json}
    (hstored : (s.get shelf.key).1 = .ok stored) (hsnapshot : IsSnapshot shelf stored)
    (hrecords : (Assoc.keys (storedRecords stored)).Nodup) {tabs tabs' : TabMap}
    {asked : List (Call × Except Fault Answer)} {w : Storage × α} {result : Except Fault Restoration} :
    let verdicts := judged fault tabs (storedRecords stored)
    agent.Restores shelf tabs (s, a) asked tabs' w result ↔
      asked = (.getValue shelf.key, .ok (.value stored)) :: resumptions (attempts verdicts) ∧
        tabs' = tabs ++ newBindings verdicts ∧ w = (s, agent.rebuilt a ((attempts verdicts).map (·.1))) ∧
        result = .ok (.restored (stored.getD "uiState") (boundTabs verdicts) (failuresOf verdicts)) := by
  intro verdicts
  obtain ⟨t, htabs, hrun⟩ :=
    comesTo_advance hfault shelf (s, a) tabs hrecords ⟨stored.getD "uiState", [], []⟩ []
  have hanswer : agent.Answers (s, a) (.getValue shelf.key) _ _ := .getValue s a shelf.key
  rw [hstored] at hanswer
  have hread : resume shelf tabs .reading (.ok (.value stored)) =
      (advance tabs ⟨stored.getD "uiState", [], []⟩ (storedRecords stored)).report [] := by
    obtain ⟨members, rfl, hcurrent⟩ := hsnapshot
    simp [resume, Restore.read, Answer.toValue, hcurrent, Turn.report]
  have hwhole : agent.RestoreRuns shelf (start shelf tabs) (s, a) _ t
    (s, agent.rebuilt a ((attempts verdicts).map (·.1)))
    (.ok (.restored (stored.getD "uiState") (boundTabs verdicts) (failuresOf verdicts))) :=
    .waiting rfl hanswer (hread ▸ hrun)
  constructor
  · rintro ⟨t', rfl, hrun'⟩
    obtain ⟨rfl, rfl, rfl, rfl⟩ := Runs.unique (R := agent.Answers) Answers.unique hrun' hwhole
    exact ⟨rfl, htabs, rfl, rfl⟩
  · rintro ⟨rfl, rfl, rfl, rfl⟩
    exact ⟨t, htabs, hwhole⟩

/-- **Restoring goes record by record, and once more it changes nothing.** A store holds a snapshot of the version of
the shelf, with anything for its records. A restore asks the agent for the session of each well-formed record whose
tab is not bound, once and in the order of the records, and binds the tabs of the sessions that are resumed behind
those that were bound. It tells of every record once, and leaves the store and the sessions that were bound as they
are. A second restore, by an agent that refuses the same sessions with the same faults, asks for those that were
refused, and tells the same; it leaves the tabs as they are. -/
theorem restored_again [Host] (hfault : agent.Refuses fault) {s : Storage} {stored : Json}
    (hstored : (s.get shelf.key).1 = .ok stored) (hsnapshot : IsSnapshot shelf stored)
    (hrecords : (Assoc.keys (storedRecords stored)).Nodup) (tabs : TabMap) :
    let verdicts := judged fault tabs (storedRecords stored)
    let bound := tabs ++ newBindings verdicts
    let restored : Restoration := .restored (stored.getD "uiState") (boundTabs verdicts) (failuresOf verdicts)
    let refused := (attempts verdicts).filter fun x => !x.2.isOk
    (∀ a asked tabs' w result, agent.Restores shelf tabs (s, a) asked tabs' w result ↔
      asked = (.getValue shelf.key, .ok (.value stored)) :: resumptions (attempts verdicts) ∧ tabs' = bound ∧
        w = (s, agent.rebuilt a ((attempts verdicts).map (·.1))) ∧ result = .ok restored) ∧
    Tells (boundTabs verdicts) (failuresOf verdicts) (Assoc.keys (storedRecords stored)) ∧
    (∀ tab session, tabs.session? tab = some session → bound.session? tab = some session) ∧
    ∀ (β : Type) (again : Agent β), again.Refuses fault → ∀ b asked tabs' w result,
      again.Restores shelf bound (s, b) asked tabs' w result ↔
        asked = (.getValue shelf.key, .ok (.value stored)) :: resumptions refused ∧ tabs' = bound ∧
          w = (s, again.rebuilt b (refused.map (·.1))) ∧ result = .ok restored := by
  intro verdicts bound restored refused
  have htold := tells_verdicts verdicts
  have hkeys : verdicts.map (·.1) = Assoc.keys (storedRecords stored) := by simp [verdicts, judged, Assoc.keys]
  rw [hkeys] at htold
  refine ⟨fun a asked tabs' w result => restores_judged hfault hstored hsnapshot hrecords, htold,
    fun tab session hb => session?_append hb _, fun β again hagain b asked tabs' w result => ?_⟩
  have hsecond : again.Restores shelf bound (s, b) asked tabs' w result ↔ _ :=
    restores_judged hagain hstored hsnapshot hrecords
  rw [judged_again hrecords] at hsecond
  simpa only [newBindings_settled, boundTabs_settled, failuresOf_settled, attempts_settled, List.append_nil]
    using hsecond

/-- An agent that cannot resume one session. -/
def selective : Agent Unit where
  report _ _ := (.ok .null, ())
  rebuild _ session _ := (if session = "lost" then .error (.backend .runtime (some "gone")) else .ok (), ())
  distinct h := by
    obtain rfl := Except.ok.inj h
    trivial

/-- A snapshot of four tabs: two have a session that can be resumed, one has a session that cannot, and one has none. -/
def mixedSnapshot : Json :=
  .obj [("version", .int 1), ("sessions", .obj [("a", .obj [("sessionId", .str "old")]), ("b", .null),
    ("c", .obj [("sessionId", .str "lost"), ("state", .int 3)]), ("d", .obj [("sessionId", .str "kept")])])]

section

attribute [local instance] Host.sample

/-- A tab of it is bound already. It is restored, and once more. -/
theorem mixedSnapshot_again :
    let s : Storage := { Coordinator.newFile with store := .memory [("chat", mixedSnapshot)] }
    let gone : Fault := .backend .runtime (some "gone")
    let restored : Restoration := .restored .null ["a", "d"]
      [⟨"b", none, "malformed session record"⟩, ⟨"c", some "lost", "gone"⟩]
    selective.Restores ⟨"chat", 1⟩ [("a", "new")] (s, ())
      [(.getValue "chat", .ok (.value mixedSnapshot)), (.resumeSession "lost" (.int 3), .error gone),
        (.resumeSession "kept" .null, .ok .done)] [("a", "new"), ("d", "kept")] (s, ()) (.ok restored) ∧
    selective.Restores ⟨"chat", 1⟩ [("a", "new"), ("d", "kept")] (s, ())
      [(.getValue "chat", .ok (.value mixedSnapshot)), (.resumeSession "lost" (.int 3), .error gone)]
      [("a", "new"), ("d", "kept")] (s, ()) (.ok restored) := by
  intro s gone restored
  have hfault : selective.Refuses fun session _ => if session = "lost" then some gone else none := by
    intro a session state
    by_cases h : session = "lost" <;> simp [selective, h, gone]
  have hsnapshot : IsSnapshot ⟨"chat", 1⟩ mixedSnapshot := ⟨_, rfl, rfl⟩
  have hstored : (s.get (Shelf.mk "chat" 1).key).1 = .ok mixedSnapshot := rfl
  have hagain := restored_again hfault hstored hsnapshot (by decide) [("a", "new")]
  exact ⟨(hagain.1 () _ _ _ _).2 ⟨rfl, rfl, rfl, rfl⟩,
    (hagain.2.2.2 Unit selective hfault () _ _ _ _).2 ⟨rfl, rfl, rfl, rfl⟩⟩

end

end Agent

end ChatRelay
