import ChatRelay.Proofs.Coordinator.Duty
import ChatRelay.Proofs.Coordinator.Setting

/-!
# When the last snapshot is the last

A shutdown closes the coordinator, saves and forgets the tabs. Handlers that were begun before go on, and nothing tells
them that the coordinator was closed once they are past its beginning: a save that waits in the store or in a session
still writes, and a session that comes late is still bound to its tab.

- `Settled`: what a handler on a closed coordinator without tabs may wait for, so that it changes neither the stored
  value nor the tabs any more;
- `Setting.final_iff`: after a shutdown the stored value and the tabs stay as they are in every schedule exactly when
  all handlers are settled;
- `Setting.lateSave_overwrites`: a save that was begun before the shutdown writes a snapshot without sessions over the
  last one.
-/

namespace ChatRelay.Coordinator

/-! ## Settled handlers -/

/-- The value that a handler will find which reads the stored one: the one that the store has ready, or the one that it
holds. -/
def found (stored : Json) : Option Answer → Json
  | some a => a.toValue
  | none => stored

/-- A value that a restoration finds and that makes it neither bind a tab nor change the stored value. -/
def Inert (shelf : Shelf) (stored : Json) : Json → Prop
  | .obj members =>
    if shelf.isCurrent ((Json.obj members).getD "version") then
      ∀ r ∈ Restore.storedRecords (.obj members), Restore.recordSession? r.2 = none
    else stored = .null
  | _ => True

/-- On a closed coordinator without tabs, a handler that will change neither the stored value nor the tabs. A save does
so when it reads no session any more and writes what is stored, or has written; a restoration when it finds nothing to
resume and nothing to remove, or has removed it. -/
def Settled (shelf : Shelf) (stored : Json) (ready : Option Answer) : Next Call Point Outcome → Prop
  | .waiting _ (.creating _) => False
  | .waiting _ (.saving _ .recalling) =>
    (Snapshot.mk shelf.version [] (shelf.storedUiState (found stored ready))).toJson = stored
  | .waiting _ (.saving _ (.reading ..)) => False
  | .waiting _ (.saving _ (.writing progress)) => ready ≠ none ∨ (progress.snapshot shelf).toJson = stored
  | .waiting _ (.restoring .reading) => Inert shelf stored (found stored ready)
  | .waiting _ (.restoring (.discarding _)) => ready ≠ none ∨ stored = .null
  | .waiting _ (.restoring (.resuming ..)) => False
  | _ => True

/-- A turn that leaves no tabs and a settled handler. -/
structure Turn.Settles (shelf : Shelf) (stored : Json) (ready : Option Answer) (t : Turn) : Prop where
  tabs : t.coordinator.tabs = []
  settled : Settled shelf stored ready t.next

section

variable {shelf : Shelf} {stored : Json} {ready : Option Answer} {c : Coordinator}

theorem Turn.Settles.report {t : Turn} (h : t.Settles shelf stored ready) (notices : List Notice) :
    (t.report notices).Settles shelf stored ready := ⟨h.tabs, h.settled⟩

theorem settles_conclude (ht : c.tabs = []) (purpose : Purpose) (saved : SaveResult) :
    (conclude c purpose saved).Settles shelf stored ready := by
  cases purpose with
  | leaving => exact ⟨rfl, trivial⟩
  | _ => exact ⟨ht, trivial⟩

/-- No save begins on a closed coordinator. -/
theorem settles_persist (hc : c.closed = true) (ht : c.tabs = []) (purpose : Purpose) (uiState : Option Json) :
    (persist c purpose uiState).Settles shelf stored ready := by
  rw [persist, if_pos hc]
  exact settles_conclude ht purpose _

theorem settles_afterSave (ht : c.tabs = []) (purpose : Purpose) {t : Save.Turn}
    (h : ∀ call pt, t.next = .waiting call pt → Settled shelf stored ready (.waiting call (.saving purpose pt))) :
    (afterSave c purpose t).Settles shelf stored ready := by
  unfold afterSave
  rcases hn : t.next with (f | saved) | ⟨call, pt⟩
  · exact ⟨ht, trivial⟩
  · exact (settles_conclude ht purpose saved).report _
  · exact ⟨ht, h call pt hn⟩

theorem settles_afterReport (hc : c.closed = true) (ht : c.tabs = []) (p : Prompt) (cause : Fault) (n : Nat)
    (t : Outbox.Turn Outbound) : (afterReport c p cause n t).Settles shelf stored ready := by
  unfold afterReport
  refine Turn.Settles.report ?_ _
  rcases t.next with (f | _) | ⟨e, pt⟩
  · exact ⟨ht, trivial⟩
  · exact settles_persist (c := { c with outbox := t.outbox }) hc ht _ _
  · exact ⟨ht, trivial⟩

theorem settles_afterRelay (hc : c.closed = true) (ht : c.tabs = []) (p : Prompt) (next : Next Call Relay.Point Nat) :
    (afterRelay c p next).Settles shelf stored ready := by
  unfold afterRelay
  split
  · exact (settles_persist hc ht _ _).report _
  · exact (settles_afterReport hc ht _ _ _ _).report _
  · exact ⟨ht, trivial⟩
  · exact ⟨ht, trivial⟩

theorem settles_afterPass (hc : c.closed = true) (ht : c.tabs = []) (p : Prompt) (handover : Relay.Handover)
    (t : Outbox.Turn Outbound) : (afterPass c p handover t).Settles shelf stored ready := by
  unfold afterPass
  refine Turn.Settles.report ?_ _
  rcases t.next with r | ⟨e, pt⟩
  · exact settles_afterRelay (c := { c with outbox := t.outbox }) hc ht p _
  · exact ⟨ht, trivial⟩

theorem settles_afterReplay (ht : c.tabs = []) (t : Outbox.Turn Outbound) :
    (afterReplay c t).Settles shelf stored ready := by
  unfold afterReplay
  rcases t.next with (f | _) | ⟨e, pt⟩ <;> exact ⟨ht, trivial⟩

theorem settles_afterRestore {t : Restore.Turn} (ht : t.tabs = [])
    (h : ∀ call pt, t.next = .waiting call pt → Settled shelf stored ready (.waiting call (.restoring pt))) :
    (afterRestore c t).Settles shelf stored ready := by
  unfold afterRestore
  rcases hn : t.next with (f | restored) | ⟨call, pt⟩
  · exact ⟨ht, trivial⟩
  · exact ⟨ht, trivial⟩
  · exact ⟨ht, h call pt hn⟩

/-- A request to a closed coordinator begins nothing but a replay. -/
theorem settles_begin [Host] (hc : c.closed = true) (ht : c.tabs = []) (r : Request) :
    (c.begin r).Settles shelf stored ready := by
  cases r with
  | inbound m =>
    simp only [begin, beginInbound, if_pos hc]
    exact ⟨ht, trivial⟩
  | hidden => exact (settles_persist (c := { c with outbox := c.outbox.hold }) hc ht _ _).report _
  | visible => exact (settles_afterReplay ht _).report _
  | shutdown =>
    simp only [begin, if_pos hc]
    exact ⟨ht, trivial⟩

/-- Without sessions there is nothing to read. -/
theorem collect_nil (shelf : Shelf) (ui : Json) : Save.collect shelf [] ui =
    .waiting (.updateValue shelf.key (Snapshot.mk shelf.version [] ui).toJson) (.writing ⟨ui, [], []⟩) := rfl

theorem settles_saveResume (hk : c.shelf = shelf) (ht : c.tabs = []) {purpose : Purpose} {call : Call} {pt : Save.Point}
    (h : Settled shelf stored ready (.waiting call (.saving purpose pt)))
    (hask : (Point.saving purpose pt).Asks shelf true call) {a : Except Fault Answer} (ha : Fitting call ready a) :
    (afterSave c purpose (Save.resume c.shelf c.tabs pt a)).Settles shelf stored none := by
  obtain ⟨rfl, -⟩ := hask
  refine settles_afterSave ht purpose fun call' pt' hn => ?_
  cases pt with
  | reading => exact h.elim
  | writing => cases a <;> cases hn
  | recalling =>
    cases a with
    | error => cases hn
    | ok a =>
      obtain rfl : ready = some a := ha rfl a rfl
      simp only [Save.resume, ht, hk, collect_nil] at hn
      obtain ⟨rfl, rfl⟩ := Next.waiting.inj hn
      exact .inr h

/-- Malformed records are skipped to the end. -/
theorem advance_malformed (tabs : TabMap) (progress : Restore.Progress) {records : List (String × Json)}
    (h : ∀ r ∈ records, Restore.recordSession? r.2 = none) :
    ∃ restored, (Restore.advance tabs progress records).next = .finished (.ok restored) := by
  induction records generalizing progress with
  | nil => exact ⟨_, rfl⟩
  | cons r rest ih =>
    obtain ⟨tab, record⟩ := r
    have hr : Restore.recordSession? record = none := h (tab, record) (.head _)
    simp only [Restore.advance, hr]
    exact ih _ fun r hr => h r (.tail _ hr)

theorem settles_restoreResume (hk : c.shelf = shelf) (ht : c.tabs = []) {call : Call} {pt : Restore.Point}
    (h : Settled shelf stored ready (.waiting call (.restoring pt)))
    (hask : (Point.restoring pt).Asks shelf true call) {a : Except Fault Answer} (ha : Fitting call ready a) :
    (afterRestore c (Restore.resume c.shelf c.tabs pt a)).Settles shelf stored none := by
  cases pt with
  | resuming => exact h.elim
  | discarding => cases a <;> exact settles_afterRestore ht fun call' pt' hn => by cases hn
  | reading =>
    obtain rfl := hask
    cases a with
    | error => exact settles_afterRestore ht fun call' pt' hn => by cases hn
    | ok a =>
      obtain rfl : ready = some a := ha rfl a rfl
      simp only [Settled, found, Restore.resume, hk] at h ⊢
      unfold Restore.read
      cases hv : a.toValue with
      | obj members =>
        rw [hv, Inert] at h
        dsimp only
        split
        · next hcur =>
          rw [if_pos hcur] at h
          obtain ⟨restored, hn⟩ := advance_malformed c.tabs ⟨(Json.obj members).getD "uiState", [], []⟩ h
          refine settles_afterRestore ((tabs_advance ..).trans ht) fun call' pt' hn' => ?_
          cases hn.symm.trans hn'
        · next hcur =>
          rw [if_neg hcur] at h
          refine settles_afterRestore ht fun call' pt' hn => ?_
          obtain ⟨rfl, rfl⟩ := Next.waiting.inj hn
          exact .inr h
      | _ => exact settles_afterRestore ht fun call' pt' hn => by cases hn

/-- A settled handler that is answered changes no tabs and is settled again. -/
theorem settles_resume (hc : c.closed = true) (hk : c.shelf = shelf) (ht : c.tabs = []) {call : Call} {pt : Point}
    (h : Settled shelf stored ready (.waiting call pt)) (hask : pt.Asks shelf true call)
    {a : Except Fault Answer} (ha : Fitting call ready a) : (c.resume a pt).Settles shelf stored none := by
  cases pt with
  | creating => exact h.elim
  | relaying p pt =>
    simp only [resume]
    cases Relay.resume p pt a with
    | pass e handover => exact settles_afterPass hc ht p handover _
    | next next => exact settles_afterRelay hc ht p next
  | passing p handover pt => exact settles_afterPass hc ht p handover _
  | reporting p cause n pt => exact settles_afterReport hc ht p cause n _
  | saving purpose pt => exact settles_saveResume hk ht h hask ha
  | restoring pt => exact settles_restoreResume hk ht h hask ha
  | announcing restored => cases a <;> exact ⟨ht, trivial⟩
  | replaying pt => exact settles_afterReplay ht _

/-- The call of a settled handler, when the store carries it out, keeps the stored value. -/
theorem settled_carryOut {store store' : Values} (hv : store shelf.key = stored) {shut : Bool} {call : Call}
    {pt : Point} (hask : pt.Asks shelf shut call) (h : Settled shelf stored none (.waiting call pt)) {a : Answer}
    (hp : carryOut store call = some (a, store')) :
    store' shelf.key = stored ∧ Settled shelf stored (some a) (.waiting call pt) := by
  cases pt with
  | saving purpose pt =>
    obtain ⟨rfl, -⟩ := hask
    cases pt with
    | reading => exact h.elim
    | recalling =>
      obtain ⟨rfl, rfl⟩ := Prod.mk.inj (Option.some.inj hp)
      refine ⟨hv, ?_⟩
      simpa [Settled, found, Answer.toValue, hv] using h
    | writing progress =>
      obtain ⟨rfl, rfl⟩ := Prod.mk.inj (Option.some.inj hp)
      have hsame : (progress.snapshot shelf).toJson = stored := h.resolve_left (by simp)
      exact ⟨by simp [hsame], .inl (by simp)⟩
  | restoring pt =>
    cases pt with
    | resuming => exact h.elim
    | reading =>
      obtain rfl := hask
      obtain ⟨rfl, rfl⟩ := Prod.mk.inj (Option.some.inj hp)
      refine ⟨hv, ?_⟩
      simpa [Settled, found, Answer.toValue, hv] using h
    | discarding =>
      obtain rfl := hask
      obtain ⟨rfl, rfl⟩ := Prod.mk.inj (Option.some.inj hp)
      have hnull : stored = .null := h.resolve_left (by simp)
      exact ⟨by simp [hnull], .inl (by simp)⟩
  -- the other calls are not for the store
  | relaying p pt =>
    obtain rfl := hask
    cases pt <;> cases hp
  | _ =>
    obtain rfl := hask
    cases hp

end

/-! ## Nothing changes any more -/

namespace Setting

/-- A closed coordinator without tabs whose handlers are all settled, on a store that holds a value. -/
structure Final (shelf : Shelf) (stored : Json) (s : Setting) : Prop where
  asking : s.scene.Asking shelf
  closed : s.scene.coordinator.closed = true
  tabs : s.scene.coordinator.tabs = []
  value : s.store shelf.key = stored
  settled : ∀ i h, s.scene.handlers[i]? = some h → Settled shelf stored (s.ready i) h.status

theorem final_begin [Host] {shelf : Shelf} {stored : Json} {s : Setting} (h : s.Final shelf stored) (r : Request) :
    Final shelf stored { s with scene := s.scene.step (.begin r) } := by
  have ht : ∀ ready, (s.scene.coordinator.begin r).Settles shelf stored ready := fun _ =>
    settles_begin h.closed h.tabs r
  refine ⟨Scene.asking_shift (Scene.step_shift s.scene (.begin r)) h.asking, ?_, (ht none).tabs, h.value,
    fun i h' hi => ?_⟩
  · refine (proper_begin s.scene.coordinator r).closed.trans ?_
    rw [h.closed, Bool.true_or]
  · rcases Schedule.handler_begin hi with hi | ⟨-, rfl⟩
    · exact h.settled i h' hi
    · exact (ht _).settled

theorem final_perform {shelf : Shelf} {stored : Json} {s : Setting} (h : s.Final shelf stored) {i : Nat} {r : Request}
    {d : List (Call × Except Fault Answer)} {call : Call} {pt : Point} {a : Answer} {store : Values}
    (hi : s.scene.handlers[i]? = some ⟨r, d, .waiting call pt⟩) (hr : s.ready i = none)
    (hp : carryOut s.store call = some (a, store)) :
    Final shelf stored { s with store := store, ready := Function.update s.ready i (some a) } := by
  have hask := h.asking.asks _ (List.mem_of_getElem? hi) call pt rfl
  have hst := h.settled i _ hi
  rw [hr] at hst
  have key := settled_carryOut h.value hask hst hp
  refine ⟨h.asking, h.closed, h.tabs, key.1, fun j h' hj => ?_⟩
  by_cases hij : j = i
  · subst hij
    obtain rfl : (⟨r, d, .waiting call pt⟩ : Handler) = h' := Option.some.inj (hi.symm.trans hj)
    simpa using key.2
  · simpa [Function.update_of_ne hij] using h.settled j h' hj

section

variable [Host]

theorem final_answer {shelf : Shelf} {stored : Json} {s : Setting} (h : s.Final shelf stored) {i : Nat} {r : Request}
    {d : List (Call × Except Fault Answer)} {call : Call} {pt : Point} {a : Except Fault Answer}
    (hi : s.scene.handlers[i]? = some ⟨r, d, .waiting call pt⟩) (ha : Fitting call (s.ready i) a) :
    Final shelf stored
      { s with scene := s.scene.step (.answer i a), ready := Function.update s.ready i none } := by
  have hask := h.asking.asks _ (List.mem_of_getElem? hi) call pt rfl
  have hs := settles_resume h.closed h.asking.kept h.tabs (h.settled i _ hi) (h.closed ▸ hask) ha
  have hcl := (proper_resume s.scene.coordinator a (h.asking.kept.symm ▸ hask)).closed
  refine ⟨Scene.asking_shift (Scene.step_shift s.scene (.answer i a)) h.asking, ?_, ?_, h.value, fun j h' hj => ?_⟩
  · rw [Scene.step_answer hi]
    exact hcl.trans h.closed
  · rw [Scene.step_answer hi]
    exact hs.tabs
  · rw [Scene.step_answer hi] at hj
    rcases Schedule.handler_answer hj with ⟨hij, hj⟩ | ⟨rfl, rfl⟩
    · simpa [Function.update_of_ne hij] using h.settled j h' hj
    · simpa using hs.settled

theorem final_change {shelf : Shelf} {stored : Json} {s s' : Setting} {d : Deed} (hs : Change s d s')
    (h : s.Final shelf stored) : s'.Final shelf stored := by
  cases hs with
  | begin r => exact final_begin h r
  | idle => exact h
  | perform i r d call pt a store hi hr hp => exact final_perform h hi hr hp
  | answer i a a' r d call pt hi ha => exact final_answer h hi ha

/-- What is final stays so, with the same stored value. -/
theorem final_run {shelf : Shelf} {stored : Json} {s : Setting} (h : s.Final shelf stored) (deeds : List Deed) :
    (s.run deeds).Final shelf stored := deeds_induction (P := Final shelf stored) (fun _ => final_change) h

/-! ## What an unsettled handler can still do -/

/-- The stored value or the tabs can still change. -/
def Unstable (shelf : Shelf) (s : Setting) : Prop :=
  ∃ deeds, (s.run deeds).scene.coordinator.tabs ≠ [] ∨ (s.run deeds).store shelf.key ≠ s.store shelf.key

end

variable {shelf : Shelf} {s : Setting} {i : Nat}

section

variable [Host]

/-- What can be reached without a change of the store can be changed from before. -/
theorem Unstable.before {s' : Setting} {deeds : List Deed} (hs : s.run deeds = s') (hk : s'.store = s.store)
    (h : s'.Unstable shelf) : s.Unstable shelf := by
  subst hs
  obtain ⟨more, h⟩ := h
  rw [hk] at h
  refine ⟨deeds ++ more, ?_⟩
  rwa [show s.run (deeds ++ more) = (s.run deeds).run more from List.foldl_append]

/-- A value that is going to be written. -/
theorem unstable_update {v : Json} {pt : Point} (hw : s.Waits i (.updateValue shelf.key v) pt) (hr : s.ready i = none)
    (hv : v ≠ s.store shelf.key) : s.Unstable shelf := by
  refine ⟨[.perform i], .inr ?_⟩
  rw [show s.run [.perform i] = s.step (.perform i) from rfl, step_perform hw hr rfl]
  simpa using hv

/-- A value that is going to be removed. -/
theorem unstable_delete {pt : Point} (hw : s.Waits i (.deleteValue shelf.key) pt) (hr : s.ready i = none)
    (hv : s.store shelf.key ≠ .null) : s.Unstable shelf := by
  refine ⟨[.perform i], .inr ?_⟩
  rw [show s.run [.perform i] = s.step (.perform i) from rfl, step_perform hw hr rfl]
  simpa using hv.symm

/-- A handler that waits for the stored value finds it. -/
theorem reached_found {pt : Point} (hw : s.Waits i (.getValue shelf.key) pt) :
    ∃ deeds a s', s.run deeds = s' ∧ a.toValue = found (s.store shelf.key) (s.ready i) ∧
      Reached s s' i (s.scene.coordinator.resume (.ok a) pt) := by
  cases hr : s.ready i with
  | some a => exact ⟨[.answer i (.ok .done)], a, _, rfl, rfl, reached_ready hw rfl hr⟩
  | none =>
    refine ⟨[.perform i, .answer i (.ok .done)], .value (s.store shelf.key), _, rfl, rfl, ?_⟩
    have hs := step_perform hw hr rfl
    have hw' : (s.step (.perform i)).Waits i (.getValue shelf.key) pt := by
      rw [hs]
      exact hw
    have h := reached_ready hw' rfl (a := .value (s.store shelf.key)) (by simp [hs])
    exact ⟨h.coordinator.trans (by rw [hs]), h.store.trans (by rw [hs]), h.ready, fun call' pt' hn =>
      h.waits call' pt' (by rw [hs]; exact hn)⟩

end

/-- A save goes on to wait where its routine does. -/
theorem afterSave_waiting (c : Coordinator) (purpose : Purpose) {t : Save.Turn} {call : Call} {pt : Save.Point}
    (h : t.next = .waiting call pt) :
    (afterSave c purpose t).coordinator = c ∧ (afterSave c purpose t).next = .waiting call (.saving purpose pt) := by
  simp only [afterSave, h]
  exact ⟨rfl, rfl⟩

/-- A save that was answered about a session goes on with the next one, or to its writing. -/
theorem read_on {s' : Setting} {purpose : Purpose} {pt : Save.Point} {a : Except Fault Answer} {p : Save.Progress}
    {rest : TabMap} (hk : s.scene.coordinator.shelf = shelf)
    (hp : (Save.resume shelf s.scene.coordinator.tabs pt a).next = Save.advance shelf p rest)
    (h : Reached s s' i (s.scene.coordinator.resume a (.saving purpose pt))) :
    ∃ call pt', Save.advance shelf p rest = .waiting call pt' ∧ s'.Waits i call (.saving purpose pt') ∧
      s'.scene.coordinator.shelf = shelf := by
  subst hk
  obtain ⟨call, pt', hn⟩ : ∃ call pt', Save.advance s.scene.coordinator.shelf p rest = .waiting call pt' := by
    cases rest <;> exact ⟨_, _, rfl⟩
  obtain ⟨hc, hn'⟩ := afterSave_waiting s.scene.coordinator purpose (hp.trans hn)
  exact ⟨call, pt', hn, h.waits _ _ hn', congrArg Coordinator.shelf (h.coordinator.trans hc)⟩

/-- A save that reads sessions comes to its writing when no session can be read any more. -/
theorem unstable_advance [Host] {stored : Json} (hst : s.store shelf.key = stored) {p : Save.Progress} {rest : TabMap}
    {purpose : Purpose} {call : Call} {pt : Save.Point} (hk : s.scene.coordinator.shelf = shelf)
    (hw : s.Waits i call (.saving purpose pt)) (hpt : Save.advance shelf p rest = .waiting call pt)
    (hr : s.ready i = none) (hv : ∀ p' : Save.Progress, p'.records = p.records → (p'.snapshot shelf).toJson ≠ stored) :
    s.Unstable shelf := by
  induction rest generalizing s p call pt with
  | nil =>
    obtain ⟨rfl, rfl⟩ := Next.waiting.inj hpt
    exact unstable_update hw hr (hst.symm ▸ hv p rfl)
  | cons b rest ih =>
    obtain ⟨tab, session⟩ := b
    obtain ⟨rfl, rfl⟩ := Next.waiting.inj hpt
    have h := reached_error hw .badValue
    have hp : (Save.resume shelf s.scene.coordinator.tabs (.reading p tab session rest) (.error .badValue)).next =
        Save.advance shelf (p.fail tab session .badValue) rest := rfl
    obtain ⟨call', pt', hn, hw', hk'⟩ := read_on hk hp h
    have hst' : (s.step (.answer i (.error .badValue))).store shelf.key = stored := by rw [h.store, hst]
    exact Unstable.before (rfl : s.run [.answer i (.error .badValue)] = _) h.store
      (ih hst' hk' hw' hn h.ready fun p' hp' => hv p' hp')

/-- Snapshots of different numbers of sessions are stored as different values. -/
theorem records_of_toJson {a b : Snapshot} (h : a.toJson = b.toJson) : a.records.length = b.records.length := by
  have hm : [("version", Json.int a.version), ("sessions", .obj (a.records.map Snapshot.recordMember))] ++ _ =
      [("version", Json.int b.version), ("sessions", .obj (b.records.map Snapshot.recordMember))] ++ _ := Json.obj.inj h
  simp only [List.cons_append, List.cons.injEq, Prod.mk.injEq, Json.obj.injEq] at hm
  simpa using congrArg List.length hm.2.1.2

/-- A save that reads a session can write two different values. -/
theorem unstable_reading [Host] {p : Save.Progress} {tab session : String} {rest : TabMap} {purpose : Purpose}
    (hk : s.scene.coordinator.shelf = shelf)
    (hw : s.Waits i (.readState session) (.saving purpose (.reading p tab session rest))) : s.Unstable shelf := by
  -- whatever the answer, the save comes to write a snapshot of the sessions that it has read by then
  have hgo : ∀ (a : Except Fault Answer) (q : Save.Progress),
      (Save.resume shelf s.scene.coordinator.tabs (.reading p tab session rest) a).next = Save.advance shelf q rest →
      Reached s (s.step (.answer i a)) i
        (s.scene.coordinator.resume a (.saving purpose (.reading p tab session rest))) →
      (∀ q' : Save.Progress, q'.records = q.records → (q'.snapshot shelf).toJson ≠ s.store shelf.key) →
      s.Unstable shelf := by
    intro a q hq h hv
    obtain ⟨call, pt, hn, hw', hk'⟩ := read_on hk hq h
    have hst : (s.step (.answer i a)).store shelf.key = s.store shelf.key := by rw [h.store]
    exact Unstable.before (rfl : s.run [.answer i a] = _) h.store (unstable_advance hst hk' hw' hn h.ready hv)
  by_cases hshort : ∃ q : Save.Progress, q.records = p.records ∧ (q.snapshot shelf).toJson = s.store shelf.key
  · -- the stored snapshot lacks the session, so that a save that can read it writes another
    obtain ⟨q, hq, hv⟩ := hshort
    refine hgo (.ok .done) (p.add tab session .null) rfl (reached_ok hw rfl _) fun q' hq' he => ?_
    have hlen := records_of_toJson (he.trans hv.symm)
    simp [Save.Progress.snapshot, hq, hq', Save.Progress.add] at hlen
  · refine hgo (.error .badValue) (p.fail tab session .badValue) rfl (reached_error hw _) fun q' hq' he => ?_
    exact hshort ⟨q', hq', he⟩

/-- The first record that names a session has it resumed. -/
theorem advance_resuming (progress : Restore.Progress) {records : List (String × Json)}
    (h : ¬∀ r ∈ records, Restore.recordSession? r.2 = none) :
    ∃ session state p tab rest, (Restore.advance [] progress records).next =
      .waiting (.resumeSession session state) (.resuming p tab session rest) := by
  induction records generalizing progress with
  | nil => exact absurd (fun r hr => by cases hr) h
  | cons r rest ih =>
    obtain ⟨tab, record⟩ := r
    cases hr : Restore.recordSession? record with
    | some session =>
      simp only [Restore.advance, hr]
      exact ⟨_, _, _, _, _, rfl⟩
    | none =>
      simp only [Restore.advance, hr]
      refine ih _ fun hall => h fun r hmem => ?_
      rcases List.mem_cons.1 hmem with rfl | hmem
      · exact hr
      · exact hall r hmem

theorem put_ne_nil {κ : Type} [DecidableEq κ] {α : Type} (key : κ) (v : α) (entries : List (κ × α)) :
    Assoc.put key v entries ≠ [] := by
  cases entries with
  | nil => simp [Assoc.put]
  | cons e rest =>
    simp only [Assoc.put]
    split <;> simp

/-- A session that is being resumed can come and is bound to its tab. -/
theorem unstable_resuming [Host] {p : Restore.Progress} {tab session : String} {state : Json}
    {rest : List (String × Json)}
    (hw : s.Waits i (.resumeSession session state) (.restoring (.resuming p tab session rest))) : s.Unstable shelf := by
  refine ⟨[.answer i (.ok .done)], .inl ?_⟩
  rw [show (s.run [.answer i (.ok .done)]).scene.coordinator = _ from (reached_ok hw rfl .done).coordinator]
  have ht : (s.scene.coordinator.resume (.ok .done) (.restoring (.resuming p tab session rest))).coordinator.tabs =
      s.scene.coordinator.tabs.bind tab session := (tabs_afterRestore ..).trans (tabs_advance ..)
  rw [ht]
  exact put_ne_nil _ _ _

/-- A session that is being made can come and is bound to its tab. -/
theorem unstable_creating [Host] {tab : String} (hc : s.scene.coordinator.closed = true)
    (hw : s.Waits i .createSession (.creating tab)) : s.Unstable shelf := by
  refine ⟨[.answer i (.ok .done)], .inl ?_⟩
  rw [show (s.run [.answer i (.ok .done)]).scene.coordinator = _ from (reached_ok hw rfl .done).coordinator]
  have ht : (s.scene.coordinator.resume (.ok .done) (.creating tab)).coordinator.tabs =
      s.scene.coordinator.tabs.bind tab "" := by
    simp only [resume, openTab, persist, if_pos hc]
    rfl
  rw [ht]
  exact put_ne_nil _ _ _

/-- A restoration goes on to wait where its routine does. -/
theorem afterRestore_waiting (c : Coordinator) {t : Restore.Turn} {call : Call} {pt : Restore.Point}
    (h : t.next = .waiting call pt) : (afterRestore c t).next = .waiting call (.restoring pt) := by
  simp only [afterRestore, h]
  rfl

section

variable [Host]

/-- A save that finds a stored value will write a snapshot without sessions. -/
theorem unstable_recalling {purpose : Purpose} (hk : s.scene.coordinator.shelf = shelf)
    (ht : s.scene.coordinator.tabs = []) (hw : s.Waits i (.getValue shelf.key) (.saving purpose .recalling))
    (hv : (Snapshot.mk shelf.version [] (shelf.storedUiState (found (s.store shelf.key) (s.ready i)))).toJson ≠
      s.store shelf.key) : s.Unstable shelf := by
  obtain ⟨deeds, a, s', hs, ha, h⟩ := reached_found hw
  have hn : (Save.resume s.scene.coordinator.shelf s.scene.coordinator.tabs .recalling (.ok a)).next =
      Save.collect shelf [] (shelf.storedUiState (found (s.store shelf.key) (s.ready i))) := by
    simp only [Save.resume, hk, ht, ha]
  refine Unstable.before hs h.store (unstable_update (h.waits _ _ (afterSave_waiting _ purpose hn).2) h.ready ?_)
  rw [h.store]
  exact hv

/-- A restoration that finds something will remove it or have a session resumed. -/
theorem unstable_restoring (hk : s.scene.coordinator.shelf = shelf) (ht : s.scene.coordinator.tabs = [])
    (hw : s.Waits i (.getValue shelf.key) (.restoring .reading))
    (hv : ¬Inert shelf (s.store shelf.key) (found (s.store shelf.key) (s.ready i))) : s.Unstable shelf := by
  obtain ⟨deeds, a, s', hs, ha, h⟩ := reached_found hw
  refine Unstable.before hs h.store ?_
  rw [← ha] at hv
  have hread : Restore.resume s.scene.coordinator.shelf s.scene.coordinator.tabs .reading (.ok a) =
      Restore.read shelf [] a.toValue := by rw [hk, ht, Restore.resume]
  cases hj : a.toValue with
  | obj members =>
    rw [hj] at hread
    rw [hj, Inert] at hv
    unfold Restore.read at hread
    dsimp only at hread
    split at hv
    · next hcur =>
      rw [if_pos hcur] at hread
      obtain ⟨session, state, p, tab, rest, hn⟩ := advance_resuming ⟨(Json.obj members).getD "uiState", [], []⟩ hv
      exact unstable_resuming (h.waits _ _ (afterRestore_waiting _ ((congrArg Restore.Turn.next hread).trans hn)))
    · next hcur =>
      rw [if_neg hcur] at hread
      refine unstable_delete (h.waits _ _ (afterRestore_waiting _ (congrArg Restore.Turn.next hread))) h.ready ?_
      rw [h.store]
      exact hv
  | _ =>
    rw [hj] at hv
    exact absurd trivial hv

theorem unstable_of_unsettled (hask : s.scene.Asking shelf) (hc : s.scene.coordinator.closed = true)
    (ht : s.scene.coordinator.tabs = []) {h : Handler} (hi : s.scene.handlers[i]? = some h)
    (hns : ¬Settled shelf (s.store shelf.key) (s.ready i) h.status) : s.Unstable shelf := by
  obtain ⟨r, d, result | ⟨call, pt⟩⟩ := h
  · exact absurd trivial hns
  · have hcall := hask.asks _ (List.mem_of_getElem? hi) call pt rfl
    have hw : s.Waits i call pt := ⟨r, d, hi⟩
    cases pt with
    | creating tab =>
      obtain rfl := hcall
      exact unstable_creating hc hw
    | saving purpose pt =>
      obtain ⟨rfl, -⟩ := hcall
      cases pt with
      | recalling => exact unstable_recalling hask.kept ht hw hns
      | reading => exact unstable_reading hask.kept hw
      | writing progress =>
        obtain ⟨hr, hv⟩ := not_or.1 hns
        exact unstable_update hw (not_not.1 hr) hv
    | restoring pt =>
      cases pt with
      | reading =>
        obtain rfl := hcall
        exact unstable_restoring hask.kept ht hw hns
      | discarding =>
        obtain rfl := hcall
        obtain ⟨hr, hv⟩ := not_or.1 hns
        exact unstable_delete hw (not_not.1 hr) hv
      | resuming =>
        obtain ⟨state, rfl⟩ := hcall
        exact unstable_resuming hw
    | _ => exact absurd trivial hns

/-! ## After a shutdown -/

/-- **When the last snapshot is the last.** In every state in which a shutdown has come to its end, the tabs are and
stay empty and the stored value stays as it is, whatever happens next, exactly when there are no tabs and every handler
is settled. -/
theorem final_iff (shelf : Shelf) (visible : Bool) (store : Values) (deeds : List Deed) :
    let s := (start shelf visible store).run deeds
    (∃ h ∈ s.scene.handlers, h.request = .shutdown ∧ ∃ outcome, h.status = .finished (.ok outcome)) →
    ((∀ more, (s.run more).scene.coordinator.tabs = [] ∧ (s.run more).store shelf.key = s.store shelf.key) ↔
      s.scene.coordinator.tabs = [] ∧
        ∀ i h, s.scene.handlers[i]? = some h → Settled shelf (s.store shelf.key) (s.ready i) h.status) := by
  rintro s ⟨h, hmem, hreq, -⟩
  have hask : s.scene.Asking shelf := asking_run shelf visible store deeds
  have hc : s.scene.coordinator.closed = true := hask.shut h hmem (by rw [hreq]; rfl)
  constructor
  · intro hfix
    have ht : s.scene.coordinator.tabs = [] := (hfix []).1
    refine ⟨ht, fun i h hi => ?_⟩
    by_contra hns
    obtain ⟨more, htabs | hstore⟩ := unstable_of_unsettled hask hc ht hi hns
    · exact htabs (hfix more).1
    · exact hstore (hfix more).2
  · rintro ⟨ht, hset⟩ more
    have hf := final_run ⟨hask, hc, ht, rfl, hset⟩ more
    exact ⟨hf.tabs, hf.value⟩

end

section

attribute [local instance] Host.sample

/-- The message that opens a tab. -/
def openTabMessage : Json := .obj [("type", .str "new-tab"), ("tabId", .str "t")]

/-- A prompt is being answered when the shutdown comes and goes. -/
def lateRelay : List Deed :=
  let prompt : Json :=
    .obj [("type", .str "prompt"), ("tabId", .str "t"), ("messageId", .str "m"), ("prompt", .str "x")]
  [.begin (.inbound openTabMessage), .answer 0 (.ok (.session "s")), .answer 0 (.error .fileSystem),
    .begin (.inbound prompt), .answer 1 (.ok .done), .begin .shutdown, .perform 2, .answer 2 (.ok .done),
    .answer 2 (.ok (.value (.int 7))), .perform 2, .answer 2 (.ok .done)]

/-- The relay that outlives the shutdown leaves the last snapshot alone. -/
theorem lateRelay_final :
    let s := (start ⟨"k", 1⟩ true fun _ => .null).run lateRelay
    ∀ more, (s.run more).scene.coordinator.tabs = [] ∧ (s.run more).store "k" = s.store "k" := by
  have hend : ((start ⟨"k", 1⟩ true fun _ => .null).run lateRelay).scene.handlers[2]?.map
      (fun h => (h.request, h.status)) = some (.shutdown, .finished (.ok (.saved ⟨["t"], []⟩))) := rfl
  obtain ⟨h, hh, he⟩ := Option.map_eq_some_iff.1 hend
  refine (final_iff ⟨"k", 1⟩ true (fun _ => .null) lateRelay
    ⟨h, List.mem_of_getElem? hh, congrArg Prod.fst he, _, congrArg Prod.snd he⟩).2 ⟨rfl, fun i h hi => ?_⟩
  rcases i with _ | _ | _ | i
  · obtain rfl := Option.some.inj hi
    trivial
  · obtain rfl := Option.some.inj hi
    trivial
  · obtain rfl := Option.some.inj hi
    trivial
  · cases hi

/-- A tab is open, and the surface was hidden when the shutdown comes and goes; the save that this has begun has not yet
asked the store. -/
def lateSave : List Deed :=
  [.begin (.inbound openTabMessage), .answer 0 (.ok (.session "s")), .answer 0 (.error .fileSystem), .begin .hidden,
    .begin .shutdown, .perform 2, .answer 2 (.ok .done), .answer 2 (.ok (.value (.int 7))), .perform 2,
    .answer 2 (.ok .done)]

/-- The late save finds no tabs any more and writes a snapshot without sessions over the last one. -/
theorem lateSave_overwrites :
    let s := (start ⟨"k", 1⟩ true fun _ => .null).run lateSave
    (∃ h ∈ s.scene.handlers, h.request = .shutdown ∧ ∃ outcome, h.status = .finished (.ok outcome)) ∧
      s.store "k" = (Snapshot.mk 1 [⟨"t", "s", .int 7⟩] .null).toJson ∧
      (s.run [.perform 1, .answer 1 (.ok .done), .perform 1]).store "k" = (Snapshot.mk 1 [] .null).toJson ∧
      (Snapshot.mk 1 [] .null).toJson ≠ (Snapshot.mk 1 [⟨"t", "s", .int 7⟩] .null).toJson := by
  refine ⟨⟨_, .tail _ (.tail _ (.head _)), rfl, _, rfl⟩, rfl, rfl, fun h => ?_⟩
  simpa using records_of_toJson h

end

end Setting

end ChatRelay.Coordinator
