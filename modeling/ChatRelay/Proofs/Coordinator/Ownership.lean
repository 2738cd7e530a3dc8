import ChatRelay.Proofs.Coordinator.Ensemble

/-!
# To whom a session belongs

A tab comes to its session when it is opened, or when it is restored from what is stored, and what is stored was
written by saves that have read the tabs some time before. So a session has a way from the tab that it was made for
through maps, saves, the store and restorations, and it belongs to this tab all along the way.

- `Shelf.named`: the sessions that a stored value names for its tabs;
- `Scene.Owns`: a session belongs to a tab when it was stored for it at first, or was made for it;
- `Point.Owned`: what a handler has under way at a point belongs to its tabs (`owned_begin`, `owned_resume`);
- `Setting.Rightful`: so does all that is bound, stored, ready and under way (`Setting.rightful_change`);
- `Setting.sessions_unshared`: no session is ever shared.
-/

namespace ChatRelay

/-! ## Named sessions -/

/-- The tabs of a stored value with the sessions that it names for them. A value of another version names none. -/
def Shelf.named (shelf : Shelf) (stored : Json) : TabMap :=
  if shelf.isCurrent (stored.getD "version") then
    (Restore.storedRecords stored).filterMap fun m => (Restore.recordSession? m.2).map fun session => (m.1, session)
  else []

theorem Shelf.mem_named {shelf : Shelf} {stored : Json} (hcurrent : shelf.isCurrent (stored.getD "version") = true)
    {tab session : String} : (tab, session) ∈ shelf.named stored ↔
      ∃ record, (tab, record) ∈ Restore.storedRecords stored ∧ Restore.recordSession? record = some session := by
  simp only [named, hcurrent, if_true, List.mem_filterMap, Option.map_eq_some_iff, Prod.mk.injEq]
  constructor
  · rintro ⟨⟨tab', record⟩, hm, session', hs, rfl, rfl⟩
    exact ⟨record, hm, hs⟩
  · rintro ⟨record, hm, hs⟩
    exact ⟨(tab, record), hm, session, hs, rfl, rfl⟩

/-- A snapshot names the sessions of its records. -/
@[simp] theorem Shelf.named_toJson (shelf : Shelf) (records : List SessionRecord) (ui : Json) :
    shelf.named (Snapshot.mk shelf.version records ui).toJson = records.map (·.binding) := by
  have hrecord (r : SessionRecord) : Restore.recordSession? (Snapshot.recordMember r).2 = some r.session := by
    simp [Snapshot.recordMember, Restore.recordSession?, Json.get?, Json.str?]
  have hbinding (r : SessionRecord) : ((Snapshot.recordMember r).1, r.session) = r.binding := rfl
  simp [named, List.filterMap_map, hrecord, hbinding]

namespace Coordinator

/-! ## Turns -/

/-- Every session of the bindings belongs to its tab. -/
def Owned (own : String → String → Prop) (tabs : TabMap) : Prop :=
  ∀ tab session, (tab, session) ∈ tabs → own tab session

/-- Every session that is named in the records belongs to its tab. -/
def RecordsOwned (own : String → String → Prop) (records : List (String × Json)) : Prop :=
  ∀ tab record session, (tab, record) ∈ records → Restore.recordSession? record = some session → own tab session

/-- What a handler has under way at a point belongs to its tabs: what a save has read and will read, and what a
restoration resumes and will resume. -/
def Point.Owned (own : String → String → Prop) : Point → Prop
  | .saving _ (.reading p tab session rest) =>
    Coordinator.Owned own (p.records.map (·.binding)) ∧ Coordinator.Owned own ((tab, session) :: rest)
  | .saving _ (.writing p) => Coordinator.Owned own (p.records.map (·.binding))
  | .restoring (.resuming _ tab session rest) => own tab session ∧ RecordsOwned own rest
  | _ => True

/-- What an answer brings to a handler at a point belongs to its tabs. -/
def Point.Receives (own : String → String → Prop) (shelf : Shelf) : Point → Answer → Prop
  | .creating tab, a => own tab a.toSession
  | .restoring .reading, a => Coordinator.Owned own (shelf.named a.toValue)
  | _, _ => True

section

variable {own : String → String → Prop}

theorem Owned.mono {own' : String → String → Prop} (h : ∀ tab session, own tab session → own' tab session)
    {tabs : TabMap} (ho : Owned own tabs) : Owned own' tabs := fun tab session hm => h tab session (ho tab session hm)

theorem Point.Owned.mono {own' : String → String → Prop} (h : ∀ tab session, own tab session → own' tab session)
    {pt : Point} (ho : pt.Owned own) : pt.Owned own' := by
  cases pt with
  | saving purpose sp =>
    cases sp with
    | recalling => trivial
    | reading p tab session rest => exact ⟨ho.1.mono h, ho.2.mono h⟩
    | writing p => exact Coordinator.Owned.mono h ho
  | restoring rp =>
    cases rp with
    | resuming p tab session rest =>
      exact ⟨h _ _ ho.1, fun tab record session hm hs => h _ _ (ho.2 tab record session hm hs)⟩
    | _ => trivial
  | _ => trivial

theorem owned_nil : Owned own [] := fun _ _ hm => nomatch hm

theorem owned_cons {tab session : String} {tabs : TabMap} (h : own tab session) (ho : Owned own tabs) :
    Owned own ((tab, session) :: tabs) := by
  intro tab' session' hm
  rcases List.mem_cons.1 hm with he | hm
  · cases he
    exact h
  · exact ho tab' session' hm

theorem owned_bind {tabs : TabMap} (ho : Owned own tabs) {tab session : String} (h : own tab session) :
    Owned own (tabs.bind tab session) := by
  intro tab' session' hm
  rcases Assoc.mem_put _ _ hm with he | hm
  · cases he
    exact h
  · exact ho tab' session' hm

/-- A save that goes on waits at a point of it. -/
theorem calls_afterSave {P : Point → Call → Prop} (c : Coordinator) {purpose : Purpose} {t : Save.Turn}
    (h : Calls (fun sp call => P (.saving purpose sp) call) t.next) : Calls P (afterSave c purpose t).next := by
  unfold afterSave
  rcases ht : t.next with (f | saved) | ⟨call, sp⟩
  · exact calls_finished _
  · cases purpose <;> exact calls_finished _
  · exact calls_waiting (h call sp ht)

/-- A restoration that goes on waits at a point of it, or tells what came of it. -/
theorem calls_afterRestore {P : Point → Call → Prop} (c : Coordinator) {t : Restore.Turn}
    (h : Calls (fun rp call => P (.restoring rp) call) t.next)
    (htold : ∀ restored call, P (.announcing restored) call) : Calls P (afterRestore c t).next := by
  unfold afterRestore
  rcases ht : t.next with (f | restored) | ⟨call, rp⟩
  · exact calls_finished _
  · exact calls_waiting (htold _ _)
  · exact calls_waiting (h call rp ht)

theorem owned_saveAdvance (shelf : Shelf) (purpose : Purpose) {p : Save.Progress} {rest : TabMap}
    (hp : Owned own (p.records.map (·.binding))) (hrest : Owned own rest) :
    Calls (fun sp _ => (Point.saving purpose sp).Owned own) (Save.advance shelf p rest) := by
  cases rest with
  | nil => exact calls_waiting hp
  | cons b rest => exact calls_waiting ⟨hp, hrest⟩

theorem owned_saveResume (shelf : Shelf) {tabs : TabMap} (htabs : Owned own tabs) {purpose : Purpose} {sp : Save.Point}
    (hsp : (Point.saving purpose sp).Owned own) (a : Except Fault Answer) :
    Calls (fun sp _ => (Point.saving purpose sp).Owned own) (Save.resume shelf tabs sp a).next := by
  cases sp with
  | recalling =>
    cases a with
    | ok a => exact owned_saveAdvance shelf purpose owned_nil htabs
    | error f => exact calls_finished _
  | reading p tab session rest =>
    obtain ⟨hp, hrest⟩ := hsp
    have hrest' : Owned own rest := fun tab session hm => hrest tab session (List.mem_cons_of_mem _ hm)
    cases a with
    | ok a => exact owned_saveAdvance shelf purpose (owned_cons (hrest tab session List.mem_cons_self) hp) hrest'
    | error f => exact owned_saveAdvance shelf purpose hp hrest'
  | writing p => cases a <;> exact calls_finished _

theorem owned_restoreAdvance (tabs : TabMap) (p : Restore.Progress) {records : List (String × Json)}
    (h : RecordsOwned own records) :
    Calls (fun rp _ => (Point.restoring rp).Owned own) (Restore.advance tabs p records).next := by
  induction records generalizing p with
  | nil => exact calls_finished _
  | cons m rest ih =>
    obtain ⟨tab, record⟩ := m
    have hrest : RecordsOwned own rest := fun tab record session hm => h tab record session (List.mem_cons_of_mem _ hm)
    unfold Restore.advance
    split
    · exact ih _ hrest
    · next session hs =>
      split
      · exact ih _ hrest
      · exact calls_waiting ⟨h tab record session List.mem_cons_self hs, hrest⟩

theorem owned_restoreResume (shelf : Shelf) (tabs : TabMap) {rp : Restore.Point} (hrp : (Point.restoring rp).Owned own)
    {a : Except Fault Answer} (ha : ∀ b, a = .ok b → (Point.restoring rp).Receives own shelf b) :
    Calls (fun rp _ => (Point.restoring rp).Owned own) (Restore.resume shelf tabs rp a).next := by
  cases rp with
  | reading =>
    cases a with
    | error f => exact calls_finished _
    | ok a =>
      have hnamed : Owned own (shelf.named a.toValue) := ha a rfl
      simp only [Restore.resume, Restore.read]
      split
      · split
        · next hcurrent =>
          exact owned_restoreAdvance _ _ fun tab record session hm hs =>
            hnamed tab session ((Shelf.mem_named hcurrent).2 ⟨record, hm, hs⟩)
        · exact calls_waiting trivial
      · exact calls_finished _
      · exact calls_finished _
  | discarding found => cases a <;> exact calls_finished _
  | resuming p tab session rest => cases a <;> exact owned_restoreAdvance _ _ hrp.2

/-- What a request has under way when it begins was bound. -/
theorem owned_begin [Host] (c : Coordinator) (htabs : Owned own c.tabs) (r : Request) :
    Calls (fun pt _ => pt.Owned own) (c.begin r).next := by
  cases hkept : r.keptState? with
  | none =>
    intro call pt hw
    cases pt with
    | saving purpose sp =>
      obtain ⟨rfl, -⟩ := recalls_begin c hkept call _ hw purpose sp rfl
      trivial
    | restoring rp =>
      obtain rfl := restoring_begin hw
      trivial
    | _ => trivial
  | some state =>
    rcases begin_keeping_next (c := c) (keptState?_eq_some.1 hkept) with ⟨outcome, hend⟩ | hnext
    · rw [hend]
      exact calls_finished _
    · rw [hnext]
      exact calls_afterSave c (owned_saveAdvance c.shelf .keeping owned_nil htabs)

/-- What is bound and what a handler has under way when it goes on belongs to its tabs. -/
theorem owned_resume (c : Coordinator) (htabs : Owned own c.tabs) {pt : Point} {r : Request} (hserves : pt.Serves r)
    (hpt : pt.Owned own) {a : Except Fault Answer} (ha : ∀ b, a = .ok b → pt.Receives own c.shelf b) :
    Owned own (c.resume a pt).coordinator.tabs ∧ Calls (fun pt _ => pt.Owned own) (c.resume a pt).next := by
  constructor
  · have hb := resume_rebinding c a pt
    generalize (c.resume a pt).coordinator.tabs = tabs at hb
    cases hb with
    | opened tab b => exact owned_bind htabs (ha b rfl)
    | revived p tab session rest b => exact owned_bind htabs hpt.1
    | forgotten => exact owned_nil
    | kept => exact htabs
  · by_cases hsaving : ∃ purpose sp, pt = .saving purpose sp
    · obtain ⟨purpose, sp, rfl⟩ := hsaving
      exact calls_afterSave c (owned_saveResume c.shelf htabs hpt a)
    · by_cases hrestoring : ∃ rp, pt = .restoring rp
      · obtain ⟨rp, rfl⟩ := hrestoring
        exact calls_afterRestore c (owned_restoreResume c.shelf c.tabs hpt ha) fun _ _ => trivial
      · -- a save that has begun has read nothing, and no restoration begins
        have hrecalls := recalls_resume c a fun purpose sp he => hsaving ⟨purpose, sp, he⟩
        intro call pt' hw
        cases pt' with
        | saving purpose sp =>
          obtain ⟨rfl, -⟩ := hrecalls call _ hw purpose sp rfl
          trivial
        | restoring rp =>
          have hr : r.Asks .requestSavedState := serves_resume c a hserves call _ hw
          rcases hserves.restores hr with ⟨rp', rfl⟩ | ⟨restored, rfl⟩
          · exact absurd ⟨rp', rfl⟩ hrestoring
          · cases a <;> cases hw
        | _ => trivial

end

/-! ## Owners -/

/-- The sessions that the agent has made for a handler. -/
def Handler.created (h : Handler) : List String :=
  h.dialogue.filterMap fun
    | (.createSession, .ok a) => some a.toSession
    | _ => none

namespace Scene

/-- The sessions that the agent has made, by the handlers that have asked for them. -/
def created (s : Scene) : List String := s.handlers.flatMap Handler.created

/-- A session belongs to a tab when it was stored for it at first, or was made for it. -/
def Owns (first : TabMap) (s : Scene) (tab session : String) : Prop :=
  (tab, session) ∈ first ∨ ∃ h ∈ s.handlers, h.request.Asks (.newTab tab) ∧ session ∈ Handler.created h

/-- What belongs to a tab stays with it. -/
theorem owns_shift [Host] {first : TabMap} {s s' : Scene} {m : Move} (hs : Shift s m s') {tab session : String}
    (h : s.Owns first tab session) : s'.Owns first tab session := by
  refine h.imp_right ?_
  rintro ⟨h, hmem, hr, hcreated⟩
  cases hs with
  | begin r => exact ⟨h, List.mem_append_left _ hmem, hr, hcreated⟩
  | idle => exact ⟨h, hmem, hr, hcreated⟩
  | answer i a r d call pt hi =>
    obtain ⟨j, hj⟩ := List.mem_iff_getElem?.1 hmem
    have hlt := (List.getElem?_eq_some_iff.1 hi).1
    by_cases hij : i = j
    · subst hij
      obtain rfl := Option.some.inj (hi.symm.trans hj)
      refine ⟨_, List.mem_set hlt _, hr, ?_⟩
      rw [Handler.created, List.filterMap_append]
      exact List.mem_append_left _ hcreated
    · exact ⟨h, List.mem_of_getElem? ((List.getElem?_set_ne hij).trans hj), hr, hcreated⟩

/-- The session that comes for a new tab belongs to it. -/
theorem owns_created [Host] {s : Scene} {i : Nat} {r : Request} {d : List (Call × Except Fault Answer)} {pt : Point}
    (hi : s.handlers[i]? = some ⟨r, d, .waiting .createSession pt⟩) {tab : String} (hr : r.Asks (.newTab tab))
    (first : TabMap) (a : Answer) : (s.step (.answer i (.ok a))).Owns first tab a.toSession := by
  have hlt := (List.getElem?_eq_some_iff.1 hi).1
  rw [step_answer hi]
  exact .inr ⟨_, List.mem_set hlt _, hr, by simp [Handler.created]⟩

/-- Two handlers that were given one session are one handler. -/
theorem handler_of_created {s : Scene} (hcreated : s.created.Nodup) {h h' : Handler} (hh : h ∈ s.handlers)
    (hh' : h' ∈ s.handlers) {session : String} (hc : session ∈ h.created) (hc' : session ∈ h'.created) : h = h' := by
  by_contra hne
  obtain ⟨-, hdisjoint⟩ := List.nodup_flatMap.1 hcreated
  have hsymm : Std.Symm (Function.onFun List.Disjoint Handler.created) := ⟨fun _ _ hd => hd.symm⟩
  exact hdisjoint.forall hh hh' hne hc hc'

/-- When every session that was made is new, a session belongs to one tab. -/
theorem Owns.unique {first : TabMap} (hfirst : ∀ tab tab' session, (tab, session) ∈ first → (tab', session) ∈ first →
      tab = tab') {s : Scene} (hcreated : s.created.Nodup)
    (hnew : ∀ tab session, (tab, session) ∈ first → session ∉ s.created) {tab tab' session : String}
    (h : s.Owns first tab session) (h' : s.Owns first tab' session) : tab = tab' := by
  have hmem {h : Handler} (hh : h ∈ s.handlers) (hc : session ∈ h.created) : session ∈ s.created :=
    List.mem_flatMap.2 ⟨h, hh, hc⟩
  rcases h with h | ⟨h, hh, hr, hc⟩
  · rcases h' with h' | ⟨h', hh', -, hc'⟩
    · exact hfirst tab tab' session h h'
    · exact absurd (hmem hh' hc') (hnew tab session h)
  · rcases h' with h' | ⟨h', hh', hr', hc'⟩
    · exact absurd (hmem hh hc) (hnew tab' session h')
    · obtain rfl := handler_of_created hcreated hh hh' hc hc'
      exact Inbound.newTab.inj (hr.unique hr')

end Scene

/-! ## What is stored, ready and under way -/

/-- Only the snapshot of the shelf is read. -/
theorem Point.Asks.reading {shelf : Shelf} {shut : Bool} {pt : Point} {key : String}
    (h : pt.Asks shelf shut (.getValue key)) : key = shelf.key := by
  cases pt with
  | saving purpose sp =>
    obtain ⟨hcall, -⟩ := h
    cases sp with
    | recalling => exact Call.getValue.inj hcall
    | _ => cases hcall
  | relaying p pt => cases pt <;> cases h
  | restoring pt =>
    cases pt with
    | reading => exact Call.getValue.inj h
    | resuming p tab session rest =>
      obtain ⟨state, hcall⟩ := h
      cases hcall
    | _ => cases h
  | _ => cases h

namespace Setting

/-- All that is bound, stored and ready, and all that the handlers have under way, belongs to its tabs. -/
structure Rightful (shelf : Shelf) (first : TabMap) (s : Setting) : Prop where
  asking : s.scene.Asking shelf
  serving : s.scene.Serving
  tabs : Owned (s.scene.Owns first) s.scene.coordinator.tabs
  points : ∀ h ∈ s.scene.handlers, Calls (fun pt _ => pt.Owned (s.scene.Owns first)) h.status
  stored : Owned (s.scene.Owns first) (shelf.named (s.store shelf.key))
  ready : ∀ i a, s.ready i = some a → Owned (s.scene.Owns first) (shelf.named a.toValue)

theorem rightful_start (shelf : Shelf) (visible : Bool) (store : Values) :
    (start shelf visible store).Rightful shelf (shelf.named (store shelf.key)) where
  asking := Scene.asking_start shelf visible
  serving := by simp [Scene.Serving, start, Scene.start]
  tabs := owned_nil
  points := by simp [start, Scene.start]
  stored := fun _ _ hm => .inl hm
  ready := by simp [start]

section

variable {shelf : Shelf} {first : TabMap} {s s' : Setting}

theorem rightful_begin [Host] (h : s.Rightful shelf first) (r : Request) :
    Rightful shelf first { s with scene := s.scene.step (.begin r) } := by
  have hshift := Scene.step_shift s.scene (.begin r)
  have hmono : ∀ tab session, s.scene.Owns first tab session → (s.scene.step (.begin r)).Owns first tab session :=
    fun tab session => Scene.owns_shift hshift
  have htabs := h.tabs.mono hmono
  refine ⟨Scene.asking_shift hshift h.asking, Scene.serving_shift hshift h.serving, ?_, fun h' hh => ?_,
    h.stored.mono hmono, fun i a hr => (h.ready i a hr).mono hmono⟩
  · exact (congrArg (Owned _) (tabs_begin s.scene.coordinator r)).mpr htabs
  · rcases List.mem_append.1 hh with hh | hh
    · exact fun call pt hw => (h.points h' hh call pt hw).mono hmono
    · obtain rfl := List.mem_singleton.1 hh
      exact owned_begin s.scene.coordinator htabs r

section

variable {i : Nat} {r : Request} {d : List (Call × Except Fault Answer)} {call : Call} {pt : Point}
  (h : s.Rightful shelf first) (hi : s.scene.handlers[i]? = some ⟨r, d, .waiting call pt⟩)
include h hi

/-- What the store makes of a call belongs to its tabs: it holds what it has held, or what a save has read. -/
theorem rightful_perform {a : Answer} {store : Values} (hout : carryOut s.store call = some (a, store)) :
    Rightful shelf first { s with store := store, ready := Function.update s.ready i (some a) } := by
  have hmem := List.mem_of_getElem? hi
  have hask := h.asking.asks _ hmem call pt rfl
  obtain ⟨hstored, hanswer⟩ : Owned (s.scene.Owns first) (shelf.named (store shelf.key)) ∧
      Owned (s.scene.Owns first) (shelf.named a.toValue) := by
    cases call with
    | getValue key =>
      obtain ⟨rfl, rfl⟩ := Prod.mk.inj (Option.some.inj hout)
      obtain rfl := hask.reading
      exact ⟨h.stored, h.stored⟩
    | updateValue key v =>
      obtain ⟨rfl, rfl⟩ := Prod.mk.inj (Option.some.inj hout)
      obtain ⟨purpose, p, rfl, rfl, rfl⟩ := hask.writing
      have hread : Owned (s.scene.Owns first) (p.records.map (·.binding)) := h.points _ hmem _ _ rfl
      rw [Function.update_self, Save.Progress.snapshot, Shelf.named_toJson, List.map_reverse]
      exact ⟨fun tab session hm => hread tab session (List.mem_reverse.1 hm), owned_nil⟩
    | deleteValue key =>
      obtain ⟨rfl, rfl⟩ := Prod.mk.inj (Option.some.inj hout)
      refine ⟨?_, owned_nil⟩
      rw [Function.update_apply]
      split
      · exact owned_nil
      · exact h.stored
    | _ => cases hout
  refine { h with stored := hstored, ready := fun j b hb => ?_ }
  have hb' : Function.update s.ready i (some a) j = some b := hb
  rw [Function.update_apply] at hb'
  split at hb'
  · obtain rfl := Option.some.inj hb'
    exact hanswer
  · exact h.ready j b hb'

theorem rightful_answer [Host] {a : Except Fault Answer} (ha : Fitting call (s.ready i) a) :
    Rightful shelf first { s with scene := s.scene.step (.answer i a), ready := Function.update s.ready i none } := by
  have hmem := List.mem_of_getElem? hi
  have hask := h.asking.asks _ hmem call pt rfl
  have hserves := h.serving _ hmem call pt rfl
  have hshift := Scene.step_shift s.scene (.answer i a)
  have hmono : ∀ tab session, s.scene.Owns first tab session → (s.scene.step (.answer i a)).Owns first tab session :=
    fun tab session => Scene.owns_shift hshift
  have hreceives : ∀ b, a = .ok b →
      pt.Receives ((s.scene.step (.answer i a)).Owns first) s.scene.coordinator.shelf b := by
    rintro b rfl
    cases pt with
    | creating tab =>
      obtain rfl : call = .createSession := hask
      exact Scene.owns_created hi hserves first b
    | restoring rp =>
      cases rp with
      | reading =>
        obtain rfl : call = .getValue shelf.key := hask
        rw [h.asking.kept]
        exact (h.ready i b (ha rfl b rfl)).mono hmono
      | _ => trivial
    | _ => trivial
  have hgo := owned_resume s.scene.coordinator (h.tabs.mono hmono) hserves
    ((h.points _ hmem call pt rfl).mono hmono) hreceives
  have hafter : s.scene.step (.answer i a) = _ := Scene.step_answer hi a
  refine ⟨Scene.asking_shift hshift h.asking, Scene.serving_shift hshift h.serving, ?_, fun h' hh => ?_,
    h.stored.mono hmono, fun j b hb => ?_⟩
  · rw [congrArg Scene.coordinator hafter]
    exact hgo.1
  · rw [congrArg Schedule.Scene.handlers hafter] at hh
    rcases List.mem_or_eq_of_mem_set hh with hh | rfl
    · exact fun call' pt' hw => (h.points h' hh call' pt' hw).mono hmono
    · exact hgo.2
  · have hb' : Function.update s.ready i none j = some b := hb
    rw [Function.update_apply] at hb'
    split at hb'
    · cases hb'
    · exact (h.ready j b hb').mono hmono

end

variable [Host]

theorem rightful_change {d : Deed} (hs : Change s d s') (h : s.Rightful shelf first) : s'.Rightful shelf first := by
  cases hs with
  | begin r => exact rightful_begin h r
  | idle => exact h
  | perform i r d call pt a store hi _ hout => exact rightful_perform h hi hout
  | answer i a a' r d call pt hi ha => exact rightful_answer h hi ha

theorem rightful_run (shelf : Shelf) (visible : Bool) (store : Values) (deeds : List Deed) :
    ((start shelf visible store).run deeds).Rightful shelf (shelf.named (store shelf.key)) :=
  deeds_induction (P := Rightful shelf _) (fun _ => rightful_change) (rightful_start shelf visible store)

/-- No handler of a shutdown is there. -/
structure Staying (s : Setting) : Prop where
  serving : s.scene.Serving
  stays : ∀ h ∈ s.scene.handlers, h.request ≠ .shutdown

theorem staying_change {d : Deed} (hs : Change s d s') (hd : d ≠ .begin .shutdown) (h : s.Staying) : s'.Staying := by
  cases hs with
  | begin r =>
    refine ⟨Scene.serving_shift (Scene.step_shift s.scene (.begin r)) h.serving, fun h' hh => ?_⟩
    rcases List.mem_append.1 hh with hh | hh
    · exact h.stays h' hh
    · obtain rfl := List.mem_singleton.1 hh
      rintro rfl
      exact hd rfl
  | idle => exact h
  | perform => exact ⟨h.serving, h.stays⟩
  | answer i a a' r d call pt hi =>
    refine ⟨Scene.serving_shift (Scene.step_shift s.scene (.answer i a')) h.serving, fun h' hh => ?_⟩
    rw [congrArg Schedule.Scene.handlers (Scene.step_answer hi a')] at hh
    rcases List.mem_or_eq_of_mem_set hh with hh | rfl
    · exact h.stays h' hh
    · exact h.stays ⟨r, d, .waiting call pt⟩ (List.mem_of_getElem? hi)

theorem bound_change {d : Deed} (hs : Change s d s') (h : s.Staying) {tab : String}
    (hb : Bound s.scene.coordinator.tabs tab) : Bound s'.scene.coordinator.tabs tab := by
  cases hs with
  | begin r => exact (congrArg (Bound · tab) (tabs_begin s.scene.coordinator r)).mpr hb
  | idle => exact hb
  | perform => exact hb
  | answer i a a' r d call pt hi =>
    have hmem := List.mem_of_getElem? hi
    rw [congrArg Scene.coordinator (Scene.step_answer hi a')]
    exact bound_resume _ a' (h.serving _ hmem call pt rfl) (h.stays _ hmem) hb

/-- Without a shutdown, a tab that is bound stays bound. -/
theorem bound_run {deeds : List Deed} (hstay : ∀ d ∈ deeds, d ≠ .begin .shutdown) (h : s.Staying) {tab : String}
    (hb : Bound s.scene.coordinator.tabs tab) : Bound (s.run deeds).scene.coordinator.tabs tab := by
  have hall : (s.run deeds).Staying ∧ Bound (s.run deeds).scene.coordinator.tabs tab :=
    deeds_induction (P := fun s => s.Staying ∧ Bound s.scene.coordinator.tabs tab)
      (fun hd hs ⟨h, hb⟩ => ⟨staying_change hs (hstay _ hd) h, bound_change hs h hb⟩) ⟨h, hb⟩
  exact hall.2

end

/-! ## No session is shared -/

/-- The session is bound to the tab, or the stored snapshot names it for the tab. -/
def Has (shelf : Shelf) (s : Setting) (tab session : String) : Prop :=
  (tab, session) ∈ s.scene.coordinator.tabs ∨ (tab, session) ∈ shelf.named (s.store shelf.key)

section

variable [Host]

section

variable {shelf : Shelf} {visible : Bool} {store : Values} {deeds : List Deed}

theorem run_append (s : Setting) (deeds more : List Deed) : s.run (deeds ++ more) = (s.run deeds).run more :=
  List.foldl_append

/-- A later moment of a schedule comes after an earlier one. -/
theorem run_take_of_le (s : Setting) {k l : Nat} (h : k ≤ l) :
    s.run (deeds.take l) = (s.run (deeds.take k)).run ((deeds.take l).drop k) := by
  have hfront : deeds.take k = (deeds.take l).take k := by rw [List.take_take, Nat.min_eq_left h]
  rw [hfront, ← run_append, List.take_append_drop]

theorem owns_change {first : TabMap} {s s' : Setting} {d : Deed} (hs : Change s d s') {tab session : String}
    (h : s.scene.Owns first tab session) : s'.scene.Owns first tab session := by
  cases hs with
  | begin r => exact Scene.owns_shift (Scene.step_shift s.scene (.begin r)) h
  | idle => exact h
  | perform => exact h
  | answer i a a' => exact Scene.owns_shift (Scene.step_shift s.scene (.answer i a')) h

/-- What a tab has at a moment of a schedule belongs to it in the end. -/
theorem owns_of_has {k : Nat} {tab session : String}
    (h : ((start shelf visible store).run (deeds.take k)).Has shelf tab session) :
    ((start shelf visible store).run deeds).scene.Owns (shelf.named (store shelf.key)) tab session := by
  have hall := rightful_run shelf visible store (deeds.take k)
  have hnow : ((start shelf visible store).run (deeds.take k)).scene.Owns (shelf.named (store shelf.key)) tab session :=
    h.elim (hall.tabs tab session) (hall.stored tab session)
  have hlater : (((start shelf visible store).run (deeds.take k)).run (deeds.drop k)).scene.Owns
      (shelf.named (store shelf.key)) tab session :=
    deeds_induction (P := fun s => s.scene.Owns (shelf.named (store shelf.key)) tab session)
      (fun _ hs h => owns_change hs h) hnow
  rwa [← run_append, List.take_append_drop] at hlater

end

/-- **Sessions are never shared.** A coordinator with a store gets any requests but a shutdown, in any schedule, and any
call may fail. Every session that the agent makes is new: it has made none twice, and none was in the snapshot that was
stored at first, which names no session for two tabs. Then a session that is bound or stored at any moment belongs to
one tab at all moments, so no two tabs of the map ever share one; and a tab that is bound stays bound. -/
theorem sessions_unshared (shelf : Shelf) (visible : Bool) (store : Values) (deeds : List Deed)
    (hstay : ∀ d ∈ deeds, d ≠ .begin .shutdown)
    (hfirst : ∀ tab tab' session, (tab, session) ∈ shelf.named (store shelf.key) →
      (tab', session) ∈ shelf.named (store shelf.key) → tab = tab')
    (hcreated : ((start shelf visible store).run deeds).scene.created.Nodup)
    (hnew : ∀ tab session, (tab, session) ∈ shelf.named (store shelf.key) →
      session ∉ ((start shelf visible store).run deeds).scene.created) :
    let s k := (start shelf visible store).run (deeds.take k)
    (∀ k tab tab' session, (s k).scene.coordinator.tabs.session? tab = some session →
      (s k).scene.coordinator.tabs.session? tab' = some session → tab = tab') ∧
    (∀ k l tab tab' session, (s k).Has shelf tab session → (s l).Has shelf tab' session → tab = tab') ∧
    ∀ k l tab, k ≤ l → Bound (s k).scene.coordinator.tabs tab → Bound (s l).scene.coordinator.tabs tab := by
  intro s
  have hone : ∀ k l tab tab' session, (s k).Has shelf tab session → (s l).Has shelf tab' session → tab = tab' :=
    fun k l tab tab' session h h' => (owns_of_has h).unique hfirst hcreated hnew (owns_of_has h')
  refine ⟨fun k tab tab' session h h' => ?_, hone, fun k l tab hkl hb => ?_⟩
  · exact hone k k tab tab' session (.inl (Assoc.mem_of_get? h)) (.inl (Assoc.mem_of_get? h'))
  · have hstaying : (s k).Staying :=
      deeds_induction (fun hd hs => staying_change hs (hstay _ (List.mem_of_mem_take hd)))
        ⟨by simp [Scene.Serving, start, Scene.start], by simp [start, Scene.start]⟩
    have hsl : s l = (s k).run ((deeds.take l).drop k) := run_take_of_le _ hkl
    rw [hsl]
    exact bound_run (fun d hd => hstay d (List.mem_of_mem_take (List.mem_of_mem_drop hd))) hstaying hb

end

/-- While the stored session of `t` is resumed, a new tab `u` is opened and saved. Only then does the stored session
come, and the next save has both tabs. -/
def lateStored : List Deed :=
  [.begin (.inbound savedStateMessage), .perform 0, .answer 0 (.ok .done), .begin (.inbound (newTabMessage "u")),
    .answer 1 (.ok (.session "new")), .perform 1, .answer 1 (.ok .done), .answer 1 (.ok (.value (.int 0))), .perform 1,
    .answer 1 (.ok .done), .answer 0 (.ok .done), .begin .hidden, .perform 2, .answer 2 (.ok .done),
    .answer 2 (.ok (.value (.int 0))), .answer 2 (.ok (.value (.int 1))), .perform 2]

section

attribute [local instance] Host.sample

/-- The two tabs share no session, and both are stored in the end. -/
theorem lateStored_unshared :
    let s := (start ⟨"k", 1⟩ true fun _ => Scene.storedTab).run lateStored
    s.scene.coordinator.tabs = [("u", "new"), ("t", "old")] ∧
      Shelf.named ⟨"k", 1⟩ (s.store "k") = [("u", "new"), ("t", "old")] ∧
      (∀ tab tab' session, s.scene.coordinator.tabs.session? tab = some session →
        s.scene.coordinator.tabs.session? tab' = some session → tab = tab') := by
  intro s
  have hstored : Shelf.named ⟨"k", 1⟩ Scene.storedTab = [("t", "old")] := rfl
  have hcreated : s.scene.created = ["new"] := rfl
  have hnew : ∀ tab session, (tab, session) ∈ Shelf.named ⟨"k", 1⟩ Scene.storedTab → session ∉ s.scene.created := by
    rw [hstored, hcreated]
    simp
  have hunshared := sessions_unshared ⟨"k", 1⟩ true (fun _ => Scene.storedTab) lateStored (by simp [lateStored])
    (by simp [hstored]) (hcreated ▸ List.nodup_singleton "new") hnew
  exact ⟨rfl, rfl, hunshared.1 lateStored.length⟩

end

end Setting

end Coordinator

end ChatRelay
