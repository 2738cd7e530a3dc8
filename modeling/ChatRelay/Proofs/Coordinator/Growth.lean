import ChatRelay.Proofs.Coordinator.Alone
import ChatRelay.Proofs.Coordinator.Duty
import ChatRelay.Proofs.Coordinator.Setting

/-!
# The sessions of the stored snapshot

A save writes the sessions of the tabs that are bound, and nothing of the sessions that are stored. As long as the
stored tabs are not bound, the next save forgets them.

- `Gathers`: the tabs that a save has read, and those that it has still to read, are all the tabs;
- `Point.Stands`: how the tabs stand while a handler that runs alone waits;
- `Handled`: all that a request does to the tabs and to the stored value (`handled_of_handles`);
- `recorded_grow_iff`: the tabs of the stored snapshot only grow exactly when all tabs that were stored at first are
  bound whenever a snapshot is written;
- `unrestored_forgotten`: a surface that is hidden before the saved state was asked for loses the stored sessions.
-/

namespace ChatRelay.Coordinator

/-! ## Bound tabs -/

/-- A tab has a session. -/
def Bound (tabs : TabMap) (tab : String) : Prop := tabs.session? tab ≠ none

theorem bound_bind {tabs : TabMap} {tab tab' session : String} :
    Bound (tabs.bind tab session) tab' ↔ tab = tab' ∨ Bound tabs tab' := by
  unfold Bound TabMap.session? TabMap.bind
  rw [Assoc.get?_put]
  by_cases h : tab = tab' <;> simp [h]

theorem mem_keys_iff_bound {tabs : TabMap} {tab : String} : tab ∈ Assoc.keys tabs ↔ Bound tabs tab := by
  induction tabs with
  | nil => simp [Assoc.keys, Bound, TabMap.session?]
  | cons b rest ih =>
    obtain ⟨tab', session⟩ := b
    have hrest : tab ∈ Assoc.keys rest ↔ Assoc.get? tab rest ≠ none := ih
    simp only [Assoc.keys, List.map_cons, List.mem_cons, Bound, TabMap.session?, Assoc.get?_cons] at hrest ⊢
    by_cases h : tab' = tab
    · simp [h]
    · simp [h, Ne.symm h, hrest]

/-! ## What a save gathers -/

/-- The tabs that a save has read, and those that it has still to read, are all the tabs in their order. -/
def Gathers (tabs : TabMap) : Save.Point → Prop
  | .recalling => True
  | .reading p tab _ rest => p.records.reverse.map (·.tab) ++ tab :: Assoc.keys rest = Assoc.keys tabs
  | .writing p => p.records.reverse.map (·.tab) = Assoc.keys tabs

theorem gathers_advance (shelf : Shelf) {tabs rest : TabMap} {p : Save.Progress}
    (h : p.records.reverse.map (·.tab) ++ Assoc.keys rest = Assoc.keys tabs) :
    Calls (fun pt _ => Gathers tabs pt) (Save.advance shelf p rest) := by
  cases rest with
  | nil => exact calls_waiting ((List.append_nil _).symm.trans h)
  | cons b rest => exact calls_waiting h

theorem gathers_start (shelf : Shelf) (tabs : TabMap) (uiState : Option Json) :
    Calls (fun pt _ => Gathers tabs pt) (Save.start shelf tabs uiState).next := by
  cases uiState with
  | none => exact calls_waiting trivial
  | some ui => exact gathers_advance shelf rfl

/-- A save of which every session could be read. -/
theorem gathers_resume (shelf : Shelf) {tabs : TabMap} {pt : Save.Point} (h : Gathers tabs pt)
    {a : Except Fault Answer} (ha : ∀ p tab session rest f, pt = .reading p tab session rest → a ≠ .error f) :
    Calls (fun pt _ => Gathers tabs pt) (Save.resume shelf tabs pt a).next := by
  cases pt with
  | recalling =>
    cases a with
    | ok a => exact gathers_advance shelf rfl
    | error f => exact calls_finished _
  | reading p tab session rest =>
    cases a with
    | ok a =>
      refine gathers_advance shelf (Eq.trans ?_ h)
      simp [Save.Progress.add]
    | error f => exact absurd rfl (ha p tab session rest f rfl)
  | writing p => cases a <;> exact calls_finished _

/-! ## How the tabs stand -/

/-- The tabs that a save for a purpose writes, of the tabs that were there at the begin of its request. -/
def Purpose.tabs (tabs : TabMap) : Purpose → TabMap
  | .opening tab session => tabs.bind tab session
  | _ => tabs

/-- How the tabs stand when a handler waits at a point, and how they stood when it began. -/
def Point.Stands (c : Coordinator) (tabs : TabMap) : Point → Prop
  | .saving purpose pt => tabs = purpose.tabs c.tabs ∧ c.closed = false ∧ Gathers tabs pt
  | .restoring pt => ∀ found, pt ≠ .discarding found
  | .announcing _ => True
  | _ => tabs = c.tabs

/-- A turn that ends a handler or leaves the tabs as they have to stand. -/
def Turn.Stands (c : Coordinator) (t : Turn) : Prop := Calls (fun pt _ => pt.Stands c t.coordinator.tabs) t.next

theorem Turn.Stands.report {c : Coordinator} {t : Turn} (h : t.Stands c) (notices : List Notice) :
    (t.report notices).Stands c := h

section

variable {c₀ c : Coordinator}

theorem stands_conclude (purpose : Purpose) (saved : SaveResult) : (conclude c purpose saved).Stands c₀ := by
  cases purpose <;> exact calls_finished _

theorem stands_afterSave (purpose : Purpose) (htabs : c.tabs = purpose.tabs c₀.tabs) (hopen : c₀.closed = false)
    {t : Save.Turn} (h : Calls (fun pt _ => Gathers c.tabs pt) t.next) : (afterSave c purpose t).Stands c₀ := by
  unfold afterSave
  rcases ht : t.next with (f | saved) | ⟨call, pt⟩
  · exact calls_finished _
  · exact (stands_conclude purpose saved).report _
  · exact calls_waiting ⟨htabs, hopen, h call pt ht⟩

theorem stands_persist (purpose : Purpose) (htabs : c.tabs = purpose.tabs c₀.tabs) (hclosed : c.closed = c₀.closed)
    (uiState : Option Json) : (persist c purpose uiState).Stands c₀ := by
  unfold persist
  split
  · exact stands_conclude purpose _
  · next hopen =>
    have hopen₀ : c₀.closed = false := by simpa [hclosed] using hopen
    exact stands_afterSave purpose htabs hopen₀ (gathers_start _ _ _)

variable (htabs : c.tabs = c₀.tabs) (hclosed : c.closed = c₀.closed)
include htabs hclosed

theorem stands_afterReport (p : Prompt) (cause : Fault) (n : Nat) (t : Outbox.Turn Outbound) :
    (afterReport c p cause n t).Stands c₀ := by
  unfold afterReport
  refine Turn.Stands.report ?_ _
  rcases t.next with (f | _) | ⟨e, pt⟩
  · exact calls_finished _
  · exact stands_persist (c := { c with outbox := t.outbox }) (.failing p cause n) htabs hclosed _
  · exact calls_waiting htabs

theorem stands_afterRelay (p : Prompt) (next : Next Call Relay.Point Nat) : (afterRelay c p next).Stands c₀ := by
  unfold afterRelay
  split
  · next n => exact (stands_persist (.completing p n) htabs hclosed _).report _
  · exact (stands_afterReport htabs hclosed _ _ _ _).report _
  · exact calls_finished _
  · exact calls_waiting htabs

theorem stands_afterPass (p : Prompt) (handover : Relay.Handover) (t : Outbox.Turn Outbound) :
    (afterPass c p handover t).Stands c₀ := by
  unfold afterPass
  refine Turn.Stands.report ?_ _
  rcases t.next with result | ⟨e, pt⟩
  · exact stands_afterRelay (c := { c with outbox := t.outbox }) htabs hclosed p _
  · exact calls_waiting htabs

theorem stands_afterStep (p : Prompt) (step : Relay.Step) : (afterStep c p step).Stands c₀ := by
  cases step with
  | pass event handover => exact stands_afterPass htabs hclosed p handover _
  | next next => exact stands_afterRelay htabs hclosed p next

omit htabs hclosed in
theorem stands_afterRestore {t : Restore.Turn} (h : Calls (fun pt _ => ∀ found, pt ≠ .discarding found) t.next) :
    (afterRestore c t).Stands c₀ := by
  unfold afterRestore
  refine Turn.Stands.report ?_ _
  rcases ht : t.next with (f | restored) | ⟨call, pt⟩
  · exact calls_finished _
  · exact calls_waiting trivial
  · exact calls_waiting (h call pt ht)

omit hclosed in
theorem stands_afterReplay (t : Outbox.Turn Outbound) : (afterReplay c t).Stands c₀ := by
  unfold afterReplay
  refine Turn.Stands.report ?_ _
  rcases t.next with (f | _) | ⟨e, pt⟩
  · exact calls_finished _
  · exact calls_finished _
  · exact calls_waiting htabs

omit htabs hclosed in
theorem stands_beginEvent (event : Inbound) : (beginEvent c event).Stands c := by
  cases event with
  | newTab tab => exact calls_waiting rfl
  | prompt tab message text =>
    simp only [beginEvent]
    split
    · exact stands_afterRelay rfl rfl _ _
    · exact calls_finished _
  | saveState state => exact stands_persist .keeping rfl rfl _
  | requestSavedState => exact stands_afterRestore (calls_waiting (by simp))

end

/-- The tabs stand as they have to when a request begins. -/
theorem stands_begin [Host] (c : Coordinator) (r : Request) : (c.begin r).Stands c := by
  cases r with
  | inbound m =>
    simp only [begin, beginInbound]
    split
    · exact calls_finished _
    · split
      · exact stands_beginEvent _
      · exact calls_drop c _
  | hidden => exact (stands_persist (c := { c with outbox := c.outbox.hold }) .hiding rfl rfl _).report _
  | visible => exact (stands_afterReplay rfl _).report _
  | shutdown =>
    simp only [begin]
    split
    · exact calls_finished _
    · next hopen =>
      have hopen' : c.closed = false := by simpa using hopen
      exact @stands_afterSave c { c with closed := true } .leaving rfl hopen' _ (gathers_start _ _ _)

/-! ## What comes back -/

/-- The value is a snapshot of the version of the shelf. -/
def IsSnapshot (shelf : Shelf) (v : Json) : Prop :=
  ∃ members, v = .obj members ∧ shelf.isCurrent (v.getD "version") = true

/-- The tabs of a stored snapshot. -/
def recorded (v : Json) : List String := Assoc.keys (Restore.storedRecords v)

/-- What can come back from a store that carries out a call or refuses it, from an agent that can read every session,
and from everything else. -/
inductive Dependable (store : Values) : Call → Except Fault Answer → Values → Prop
  | done (call : Call) (a : Answer) (store' : Values) : carryOut store call = some (a, store') →
      Dependable store call (.ok a) store'
  | refused (call : Call) (f : Fault) : onStore call = true → Dependable store call (.error f) store
  | other (call : Call) (a : Except Fault Answer) : onStore call = false →
      (∀ session f, call = .readState session → a ≠ .error f) → Dependable store call a store

/-- A store that answers a call on it with a value carries the call out. -/
theorem Dependable.ok_of_onStore {store store' : Values} {call : Call} {a : Answer}
    (h : Dependable store call (.ok a) store') (hcall : onStore call = true) :
    carryOut store call = some (a, store') := by
  cases h with
  | done _ _ h => exact h
  | other _ hcall' => rw [hcall] at hcall'; cases hcall'

theorem stands_restoreResume {shelf : Shelf} {tabs : TabMap} {pt : Restore.Point} (h : ∀ found, pt ≠ .discarding found)
    {a : Except Fault Answer} (ha : ∀ b, pt = .reading → a = .ok b → IsSnapshot shelf b.toValue) :
    Calls (fun pt _ => ∀ found, pt ≠ .discarding found) (Restore.resume shelf tabs pt a).next := by
  have hadvance (tabs : TabMap) (p : Restore.Progress) (records : List (String × Json)) :
      Calls (fun pt _ => ∀ found, pt ≠ .discarding found) (Restore.advance tabs p records).next := by
    induction records generalizing p with
    | nil => exact calls_finished _
    | cons r rest ih =>
      obtain ⟨tab, record⟩ := r
      unfold Restore.advance
      split
      · exact ih _
      · split
        · exact ih _
        · exact calls_waiting (by simp)
  cases pt with
  | reading =>
    cases a with
    | error f => exact calls_finished _
    | ok b =>
      obtain ⟨members, hv, hcurrent⟩ := ha b rfl rfl
      rw [hv] at hcurrent
      simp only [Restore.resume, hv, Restore.read, hcurrent, if_true]
      exact hadvance _ _ _
  | discarding found => exact absurd rfl (h found)
  | resuming p tab session rest => cases a <;> exact hadvance _ _ _

theorem stands_resume {c₀ c : Coordinator} {pt : Point} (h : pt.Stands c₀ c.tabs)
    (hclosed : (∀ purpose sp, pt ≠ .saving purpose sp) → c.closed = c₀.closed)
    {call : Call} (hask : pt.Asks c.shelf c.closed call) {store store' : Values} {a : Except Fault Answer}
    (hstore : IsSnapshot c.shelf (store c.shelf.key)) (ha : Dependable store call a store') :
    (c.resume a pt).Stands c₀ := by
  cases pt with
  | creating tab =>
    cases a with
    | error f => exact calls_finished _
    | ok b =>
      have htabs : c.tabs.bind tab b.toSession = c₀.tabs.bind tab b.toSession := congrArg (TabMap.bind · tab _) h
      exact (stands_persist (c := { c with tabs := c.tabs.bind tab b.toSession }) (.opening tab b.toSession) htabs
        (hclosed (by simp)) none).report _
  | relaying p pt => exact stands_afterStep h (hclosed (by simp)) p _
  | passing p handover pt => exact stands_afterPass h (hclosed (by simp)) p handover _
  | reporting p cause n pt => exact stands_afterReport h (hclosed (by simp)) p cause n _
  | saving purpose pt =>
    obtain ⟨htabs, hopen, hgathers⟩ := h
    refine stands_afterSave purpose htabs hopen (gathers_resume _ hgathers ?_)
    rintro p tab session rest f rfl rfl
    obtain rfl : call = .readState session := hask.1
    cases ha with
    | refused _ hcall => cases hcall
    | other _ _ hread => exact hread session f rfl rfl
  | restoring pt =>
    refine stands_afterRestore (stands_restoreResume h ?_)
    rintro b rfl rfl
    obtain rfl : call = .getValue c.shelf.key := hask
    obtain ⟨rfl, -⟩ := Prod.mk.inj (Option.some.inj (ha.ok_of_onStore rfl))
    exact hstore
  | announcing restored => cases a <;> exact calls_finished _
  | replaying pt => exact stands_afterReplay h _

/-! ## What a request does -/

/-- The value is a snapshot of all tabs that are bound when a request has been handled, a new tab among them. -/
structure Wrote (c : Coordinator) (r : Request) (c' : Coordinator) (v : Json) : Prop where
  opened : c.closed = false
  snapshot : IsSnapshot c.shelf v
  mem : ∀ tab, tab ∈ recorded v ↔ Bound c.tabs tab ∨ r.Asks (.newTab tab)
  bound : r ≠ .shutdown → ∀ tab ∈ recorded v, Bound c'.tabs tab

/-- What there is to say of a turn of a handler that runs alone: the coordinator and the stored value before the
request, and those at the turn. -/
structure Going (c : Coordinator) (r : Request) (v : Json) (t : Turn) (store : Values) : Prop where
  proper : t.Proper c.shelf (c.closed || r.closes)
  serves : t.Serves r
  stands : t.Stands c
  grown : r ≠ .shutdown → ∀ tab, Bound c.tabs tab → Bound t.coordinator.tabs tab
  value : store c.shelf.key = v ∨
    (∃ result, t.next = .finished result) ∧ Wrote c r t.coordinator (store c.shelf.key)

/-- The tabs that a save for a request writes are the bound ones and the new one. -/
theorem bound_purposeTabs {purpose : Purpose} {r : Request} (h : purpose.Serves r) (tabs : TabMap) (tab : String) :
    Bound (purpose.tabs tabs) tab ↔ Bound tabs tab ∨ r.Asks (.newTab tab) := by
  have hother {event : Inbound} (hr : r.Asks event) (he : event ≠ .newTab tab) :
      Bound tabs tab ↔ Bound tabs tab ∨ r.Asks (.newTab tab) :=
    ⟨.inl, fun hb => hb.elim id fun hn => absurd (hr.unique hn) he⟩
  cases purpose with
  | opening tab' session =>
    have hr : r.Asks (.newTab tab') := h
    have hnew : r.Asks (.newTab tab) ↔ tab' = tab := by
      constructor
      · intro hn
        exact Inbound.newTab.inj (hr.unique hn)
      · rintro rfl
        exact hr
    rw [Purpose.tabs, bound_bind, hnew, or_comm]
  | completing p n => exact hother h (by simp)
  | failing p cause n => exact hother h (by simp)
  | keeping =>
    obtain ⟨state, hr⟩ := h
    exact hother hr (by simp)
  | _ =>
    obtain rfl := h
    exact ⟨.inl, fun hb => hb.elim id fun hn => by obtain ⟨m, hm, -⟩ := hn; cases hm⟩

theorem going_begin [Host] (c : Coordinator) (r : Request) {store : Values} :
    Going c r (store c.shelf.key) (c.begin r) store := by
  refine ⟨proper_begin c r, serves_begin c r, stands_begin c r, fun _ tab hb => ?_, .inl rfl⟩
  rw [tabs_begin]
  exact hb

/-- Unless the coordinator is shut down, what is bound stays bound when a handler goes on. -/
theorem bound_resume (c : Coordinator) (a : Except Fault Answer) {pt : Point} {r : Request} (hpt : pt.Serves r)
    (hr : r ≠ .shutdown) {tab : String} (hb : Bound c.tabs tab) : Bound (c.resume a pt).coordinator.tabs tab := by
  have hs := resume_rebinding c a pt
  generalize (c.resume a pt).coordinator.tabs = tabs at hs
  cases hs with
  | opened tab' a => exact bound_bind.2 (.inr hb)
  | revived p tab' session rest a => exact bound_bind.2 (.inr hb)
  | forgotten pt a => exact absurd hpt hr
  | kept => exact hb

/-- A store that is not asked to write or to remove a value keeps its values. -/
theorem Dependable.kept {store store' : Values} {call : Call} {a : Except Fault Answer}
    (h : Dependable store call a store') (hupdate : ∀ key v, call ≠ .updateValue key v)
    (hdelete : ∀ key, call ≠ .deleteValue key) : store' = store := by
  cases h with
  | done b _ h =>
    cases call with
    | updateValue key v => exact absurd rfl (hupdate key v)
    | deleteValue key => exact absurd rfl (hdelete key)
    | getValue key => exact (Prod.mk.inj (Option.some.inj h)).2.symm
    | _ => cases h
  | refused => rfl
  | other => rfl

/-- Only the end of a save writes a value. -/
theorem ne_update_of_asks {shelf : Shelf} {shut : Bool} {pt : Point} {call : Call} (hask : pt.Asks shelf shut call)
    (hpt : ∀ purpose p, pt ≠ .saving purpose (.writing p)) (key : String) (v : Json) : call ≠ .updateValue key v := by
  rintro rfl
  cases pt with
  | relaying p pt => cases pt <;> cases hask
  | saving purpose pt =>
    obtain ⟨hcall, -⟩ := hask
    cases pt with
    | writing p => exact hpt purpose p rfl
    | _ => cases hcall
  | restoring pt =>
    cases pt with
    | resuming => obtain ⟨state, hcall⟩ := hask; cases hcall
    | _ => cases hask
  | _ => cases hask

/-- Only a restoration that discards what it has found removes a value. -/
theorem ne_delete_of_asks {shelf : Shelf} {shut : Bool} {pt : Point} {call : Call} (hask : pt.Asks shelf shut call)
    (hpt : ∀ found, pt ≠ .restoring (.discarding found)) (key : String) : call ≠ .deleteValue key := by
  rintro rfl
  cases pt with
  | relaying p pt => cases pt <;> cases hask
  | saving purpose pt => obtain ⟨hcall, -⟩ := hask; cases pt <;> cases hcall
  | restoring pt =>
    cases pt with
    | discarding found => exact hpt found rfl
    | resuming => obtain ⟨state, hcall⟩ := hask; cases hcall
    | _ => cases hask
  | _ => cases hask

/-- The handler of a shutdown only saves. -/
theorem serves_shutdown {pt : Point} (h : pt.Serves .shutdown) : ∃ sp, pt = .saving .leaving sp := by
  cases pt with
  | saving purpose sp =>
    cases purpose with
    | leaving => exact ⟨sp, rfl⟩
    | keeping => obtain ⟨state, m, hm, -⟩ := h; cases hm
    | completing p n => obtain ⟨m, hm, -⟩ := h; cases hm
    | failing p cause n => obtain ⟨m, hm, -⟩ := h; cases hm
    | opening tab session => obtain ⟨m, hm, -⟩ := h; cases hm
    | _ => cases h
  | replaying pt => cases h
  | _ => obtain ⟨m, hm, -⟩ := h; cases hm

theorem conclude_finished (c : Coordinator) (purpose : Purpose) (saved : SaveResult) :
    ∃ result, (conclude c purpose saved).next = .finished result := by
  cases purpose <;> exact ⟨_, rfl⟩

/-- The end of a save writes a snapshot of the bound tabs. -/
theorem wrote_of_writing {c : Coordinator} {r : Request} {c' : Coordinator} {purpose : Purpose} {p : Save.Progress}
    (hserve : purpose.Serves r) (hstands : (Point.saving purpose (.writing p)).Stands c c'.tabs) {saved : SaveResult} :
    Wrote c r (conclude c' purpose saved).coordinator (p.snapshot c.shelf).toJson := by
  obtain ⟨htabs, hopen, hgathers⟩ := hstands
  have hrecorded : recorded (p.snapshot c.shelf).toJson = Assoc.keys c'.tabs := by
    rw [← hgathers]
    simp [recorded, Assoc.keys, Save.Progress.snapshot, Snapshot.recordMember, Function.comp_def]
  refine ⟨hopen, ⟨_, rfl, Shelf.isCurrent_version c.shelf⟩, fun tab => ?_, fun hr tab htab => ?_⟩
  · rw [hrecorded, mem_keys_iff_bound, htabs]
    exact bound_purposeTabs hserve c.tabs tab
  · rw [hrecorded, mem_keys_iff_bound] at htab
    have hp : purpose ≠ .leaving := by
      rintro rfl
      exact hr hserve
    rwa [tabs_conclude hp]

theorem going_resume {c : Coordinator} {r : Request} {v : Json} (hv : IsSnapshot c.shelf v) {t : Turn}
    {store store' : Values} {call : Call} {pt : Point} {a : Except Fault Answer} (h : Going c r v t store)
    (hn : t.next = .waiting call pt) (ha : Dependable store call a store') :
    Going c r v (t.coordinator.resume a pt) store' := by
  obtain ⟨⟨hkept, hclosed, hasks⟩, hserves, hstands, hgrown, hvalue⟩ := h
  have hask := hasks call pt hn
  have hserve := hserves call pt hn
  have hstand := hstands call pt hn
  have hstored : store c.shelf.key = v := by
    rcases hvalue with hvalue | ⟨⟨result, hfin⟩, -⟩
    · exact hvalue
    · rw [hn] at hfin
      cases hfin
  rw [← hkept, ← hclosed] at hask
  have hproper := proper_resume t.coordinator a hask
  rw [hkept, hclosed] at hproper
  have hopen (hpt : ∀ purpose sp, pt ≠ .saving purpose sp) : t.coordinator.closed = c.closed := by
    rw [hclosed]
    cases r with
    | shutdown =>
      obtain ⟨sp, rfl⟩ := serves_shutdown hserve
      exact absurd rfl (hpt .leaving sp)
    | _ => simp [Request.closes]
  refine ⟨hproper, serves_resume _ a hserve, stands_resume hstand hopen hask (by rw [hkept, hstored]; exact hv) ha,
    fun hr tab hb => bound_resume _ a hserve hr (hgrown hr tab hb), ?_⟩
  by_cases hpt : ∃ purpose p, pt = .saving purpose (.writing p)
  · obtain ⟨purpose, p, rfl⟩ := hpt
    obtain rfl : call = .updateValue t.coordinator.shelf.key (p.snapshot t.coordinator.shelf).toJson := hask.1
    cases ha with
    | done b store' h =>
      right
      obtain rfl := (Prod.mk.inj (Option.some.inj h)).2
      refine ⟨conclude_finished _ purpose p.result, ?_⟩
      rw [hkept, Function.update_self]
      exact wrote_of_writing hserve hstand
    | refused => exact .inl hstored
    | other _ hcall => cases hcall
  · have hw : ∀ purpose p, pt ≠ .saving purpose (.writing p) := fun purpose p he => hpt ⟨purpose, p, he⟩
    have hd : ∀ found, pt ≠ .restoring (.discarding found) := by
      rintro found rfl
      exact hstand found rfl
    left
    rw [ha.kept (ne_update_of_asks hask hw) (ne_delete_of_asks hask hd), hstored]

/-- All that a request does to the tabs and to a stored snapshot. -/
structure Handled (c : Coordinator) (r : Request) (v : Json) (c' : Coordinator) (v' : Json) : Prop where
  kept : c'.shelf = c.shelf
  closed : c'.closed = (c.closed || r.closes)
  grown : r ≠ .shutdown → ∀ tab, Bound c.tabs tab → Bound c'.tabs tab
  value : v' = v ∨ Wrote c r c' v'

theorem handled_of_handles [Host] {r : Request} {x y : Moment Values} (h : Handles Dependable r x y)
    (hv : IsSnapshot x.coordinator.shelf (x.outside x.coordinator.shelf.key)) :
    Handled x.coordinator r (x.outside x.coordinator.shelf.key) y.coordinator
      (y.outside x.coordinator.shelf.key) := by
  obtain ⟨dialogue, result, hc⟩ := h
  obtain ⟨t, htc, -, hgoing⟩ := hc.preserves (fun hg hn ha => going_resume hv hg hn ha) (going_begin x.coordinator r)
  rw [← htc]
  refine ⟨hgoing.proper.kept, hgoing.proper.closed, hgoing.grown, ?_⟩
  rcases hgoing.value with he | ⟨-, hw⟩
  · exact .inl he
  · exact .inr hw

/-! ## Sequences of requests -/

section

variable {shelf : Shelf} {visible : Bool} {store : Values} {requests : List Request} {s : Nat → Moment Values}

/-- What holds of the moments of a course: the stored value is a snapshot, and unless it is the one that was there at
first, its tabs are bound or the coordinator is closed. -/
structure Consistent (shelf : Shelf) (store : Values) (x : Moment Values) : Prop where
  kept : x.coordinator.shelf = shelf
  snapshot : IsSnapshot shelf (x.outside shelf.key)
  bound : x.outside shelf.key = store shelf.key ∨ x.coordinator.closed = true ∨
    ∀ tab ∈ recorded (x.outside shelf.key), Bound x.coordinator.tabs tab

theorem consistent_next [Host] {r : Request} {x y : Moment Values} (hx : Consistent shelf store x)
    (h : Handles Dependable r x y) : Consistent shelf store y := by
  obtain ⟨rfl, hsnap, hbound⟩ := hx
  have hh := handled_of_handles h hsnap
  refine ⟨hh.kept, ?_, ?_⟩
  · rcases hh.value with he | hw
    · rw [he]
      exact hsnap
    · exact hw.snapshot
  · by_cases hr : r = .shutdown
    · subst hr
      exact .inr (.inl (by rw [hh.closed]; simp [Request.closes]))
    · rcases hh.value with he | hw
      · rw [he]
        rcases hbound with hfirst | hclosed | hb
        · exact .inl hfirst
        · exact .inr (.inl (by rw [hh.closed, hclosed, Bool.true_or]))
        · exact .inr (.inr fun tab htab => hh.grown hr tab (hb tab htab))
      · exact .inr (.inr (hw.bound hr))

/-- **When the stored sessions only grow.** A store holds a snapshot, and requests are handled one after the other on a
new coordinator, with an agent that can read every session. The tabs of the stored snapshot only grow exactly when every
request that changes the stored value finds all tabs bound that were stored at first, unless it opens the missing one
itself. -/
theorem recorded_grow_iff [Host] (shelf : Shelf) (visible : Bool) (store : Values) (requests : List Request)
    (s : Nat → Moment Values) (hstored : IsSnapshot shelf (store shelf.key))
    (h : Course Dependable requests ⟨new shelf visible, store⟩ s) :
    (∀ k r, requests[k]? = some r →
      recorded ((s k).outside shelf.key) ⊆ recorded ((s (k + 1)).outside shelf.key)) ↔
    ∀ k r, requests[k]? = some r → (s (k + 1)).outside shelf.key ≠ (s k).outside shelf.key →
      ∀ tab ∈ recorded (store shelf.key), Bound (s k).coordinator.tabs tab ∨ r.Asks (.newTab tab) := by
  have hstep {k : Nat} {r : Request} (hk : requests[k]? = some r) : Handles Dependable r (s k) (s (k + 1)) :=
    h.next k r hk
  have hcons (k : Nat) (hk : k ≤ requests.length) : Consistent shelf store (s k) := by
    induction k with
    | zero =>
      rw [h.start]
      exact ⟨rfl, hstored, .inl rfl⟩
    | succ k ih => exact consistent_next (ih (by omega)) (hstep (List.getElem?_eq_getElem (by omega)))
  have hhandled {k : Nat} {r : Request} (hk : requests[k]? = some r) :
      Handled (s k).coordinator r ((s k).outside shelf.key) (s (k + 1)).coordinator
        ((s (k + 1)).outside shelf.key) := by
    have hlt : k < requests.length := (List.getElem?_eq_some_iff.1 hk).1
    have hc := hcons k (by omega)
    obtain rfl := hc.kept
    exact handled_of_handles (hstep hk) hc.snapshot
  constructor
  · intro hgrow k r hk hchanged tab htab
    -- what was stored at first is stored ever since
    have hever (k : Nat) (hk : k ≤ requests.length) :
        recorded (store shelf.key) ⊆ recorded ((s k).outside shelf.key) := by
      induction k with
      | zero => rw [h.start]; exact List.Subset.refl _
      | succ k ih =>
        exact List.Subset.trans (ih (by omega)) (hgrow k _ (List.getElem?_eq_getElem (by omega)))
    have hlt : k < requests.length := (List.getElem?_eq_some_iff.1 hk).1
    rcases (hhandled hk).value with he | hw
    · exact absurd he hchanged
    · exact (hw.mem tab).1 (hever (k + 1) hlt htab)
  · intro hcover k r hk
    by_cases hsame : (s (k + 1)).outside shelf.key = (s k).outside shelf.key
    · rw [hsame]
      exact List.Subset.refl _
    · intro tab htab
      have hlt : k < requests.length := (List.getElem?_eq_some_iff.1 hk).1
      rcases (hhandled hk).value with he | hw
      · exact absurd he hsame
      · rw [hw.mem]
        rcases (hcons k (by omega)).bound with hfirst | hclosed | hb
        · exact hcover k r hk hsame tab (hfirst ▸ htab)
        · rw [hw.opened] at hclosed
          cases hclosed
        · exact .inl (hb tab htab)

end

/-! ## A stored tab -/

/-- A store that holds the tab `t` with its session. -/
def storedTabs (records : List SessionRecord) : Values := fun _ => (Snapshot.mk 1 records .null).toJson

/-- The saved state is asked for first, and then a tab is opened. -/
def restoredFirst : Nat → Moment Values
  | 0 => ⟨new ⟨"k", 1⟩ true, storedTabs [⟨"t", "old", .null⟩]⟩
  | 1 => ⟨⟨⟨"k", 1⟩, [("t", "old")], .new true, false⟩, storedTabs [⟨"t", "old", .null⟩]⟩
  | _ => ⟨⟨⟨"k", 1⟩, [("t", "old"), ("u", "new")], .new true, false⟩,
      Function.update (storedTabs [⟨"t", "old", .null⟩]) "k"
        ((Snapshot.mk 1 [⟨"t", "old", .int 1⟩, ⟨"u", "new", .int 0⟩] .null).toJson)⟩

section

attribute [local instance] Host.sample

theorem restoredFirst_course :
    Course Dependable [.inbound savedStateMessage, .inbound (newTabMessage "u")]
      ⟨new ⟨"k", 1⟩ true, storedTabs [⟨"t", "old", .null⟩]⟩ restoredFirst := by
  refine ⟨rfl, fun k r hk => ?_⟩
  rcases k with _ | _ | k
  · obtain rfl := Option.some.inj hk
    exact ⟨_, _, .waiting rfl (.done _ _ _ rfl) <| .waiting rfl (.other _ (.ok .done) rfl (by simp)) <|
      .waiting rfl (.other _ (.ok .done) rfl (by simp)) <| .finished rfl⟩
  · obtain rfl := Option.some.inj hk
    exact ⟨_, _, .waiting rfl (.other _ (.ok (.session "new")) rfl (by simp)) <| .waiting rfl (.done _ _ _ rfl) <|
      .waiting rfl (.other _ (.ok (.value (.int 1))) rfl (by simp)) <|
      .waiting rfl (.other _ (.ok (.value (.int 0))) rfl (by simp)) <|
      .waiting rfl (.done _ _ _ rfl) <| .finished rfl⟩
  · cases hk

/-- The stored tab stays in the snapshot. -/
theorem restoredFirst_grow :
    recorded ((restoredFirst 0).outside "k") = ["t"] ∧ recorded ((restoredFirst 2).outside "k") = ["t", "u"] ∧
      ∀ k r, [Request.inbound savedStateMessage, .inbound (newTabMessage "u")][k]? = some r →
        recorded ((restoredFirst k).outside "k") ⊆ recorded ((restoredFirst (k + 1)).outside "k") := by
  have hstored : IsSnapshot ⟨"k", 1⟩ (storedTabs [⟨"t", "old", .null⟩] "k") := ⟨_, rfl, rfl⟩
  refine ⟨rfl, by simp [restoredFirst, recorded, Assoc.keys, Snapshot.recordMember], ?_⟩
  refine (recorded_grow_iff ⟨"k", 1⟩ true _ _ _ hstored restoredFirst_course).2 fun k r hk hchanged tab htab => ?_
  obtain rfl : tab = "t" := by simpa [recorded, storedTabs, Assoc.keys, Snapshot.recordMember] using htab
  rcases k with _ | _ | k
  · exact absurd rfl hchanged
  · exact .inl (by simp [restoredFirst, Bound, TabMap.session?])
  · cases hk

/-- The surface is hidden before the saved state was asked for. -/
def hiddenFirst : Nat → Moment Values
  | 0 => ⟨new ⟨"k", 1⟩ true, storedTabs [⟨"t", "old", .null⟩]⟩
  | _ => ⟨⟨⟨"k", 1⟩, [], .new false, false⟩,
      Function.update (storedTabs [⟨"t", "old", .null⟩]) "k" (Snapshot.mk 1 [] .null).toJson⟩

/-- The stored tab is forgotten. -/
theorem unrestored_forgotten :
    IsSnapshot ⟨"k", 1⟩ ((hiddenFirst 0).outside "k") ∧
      (∀ r ∈ Restore.storedRecords ((hiddenFirst 0).outside "k"), Restore.recordSession? r.2 ≠ none) ∧
      Course Dependable [.hidden] ⟨new ⟨"k", 1⟩ true, storedTabs [⟨"t", "old", .null⟩]⟩ hiddenFirst ∧
      recorded ((hiddenFirst 0).outside "k") = ["t"] ∧ recorded ((hiddenFirst 1).outside "k") = [] := by
  refine ⟨⟨_, rfl, rfl⟩, ?_, ⟨rfl, fun k r hk => ?_⟩, rfl, by simp [hiddenFirst, recorded, Assoc.keys]⟩
  · simp [hiddenFirst, storedTabs, Snapshot.recordMember, Restore.recordSession?, Json.get?, Json.str?]
  · rcases k with _ | k
    · obtain rfl := Option.some.inj hk
      exact ⟨_, _, .waiting rfl (.done _ _ _ rfl) <| .waiting rfl (.done _ _ _ rfl) <| .finished rfl⟩
    · cases hk

end

end ChatRelay.Coordinator
