import ChatRelay.Proofs.Coordinator.Growth
import ChatRelay.Proofs.Restart.Transparency

/-!
# Saves that are owed

A handler that changes what a snapshot holds saves before it ends, and from the change to the end of its save it owes
one. The surface takes every message, and the store carries out every call.

- `Live`, `Mirrors`: the live state, and records that tell it;
- `Point.Fits`, `Point.Owes`: how far a handler that waits has come with its save, and whether it owes one;
- `Turn.Sound`: what there is to say of a turn after which nothing was written, with one lemma for each routine;
- `sound_begin`: such is the turn in which a request begins.
-/

namespace ChatRelay

/-! ## Deliveries that succeed -/

namespace Outbox

variable {ε : Type}

/-- A turn that is no failure. -/
def Turn.Calm (t : Turn ε) : Prop := ∀ f, t.next ≠ .finished (.error f)

theorem calm_replay (b : Outbox ε) (count : Nat) : (replay b count).Calm := by
  unfold replay
  split
  · split <;> exact fun f h => nomatch h
  · exact fun f h => nomatch h

theorem calm_flush (b : Outbox ε) : b.flush.Calm := by
  unfold flush
  split
  · exact fun f h => nomatch h
  · exact calm_replay _ _

theorem calm_send (b : Outbox ε) (e : ε) : (b.send e).Calm := by
  unfold send
  split
  · exact fun f h => nomatch h
  · split
    · exact fun f h => nomatch h
    · dsimp only
      split
      · exact fun f h => nomatch h
      · split
        · exact fun f h => nomatch h
        · exact calm_flush _

theorem calm_resume (b : Outbox ε) (pt : Point ε) : (b.resume pt (.ok ())).Calm := by
  cases pt with
  | direct e => exact fun f h => nomatch h
  | replaying e count => exact calm_replay _ _

end Outbox

namespace Coordinator

/-! ## The live state -/

/-- Records that tell the tabs in their order, each with its session and the state that the agent has for it. -/
def Mirrors (echo : Echo) : TabMap → List SessionRecord → Prop :=
  List.Forall₂ fun b r => r.tab = b.1 ∧ r.session = b.2 ∧ echo.state b.2 = .ok r.state

/-- The stored value, the agent, the state that the surface handed over last, and the tabs. -/
structure Live where
  stored : Json
  echo : Echo
  uiState : Json
  tabs : TabMap

/-- How far a save has come that waits at a point. -/
def SaveFits (shelf : Shelf) (l : Live) : Save.Point → Prop
  | .recalling => shelf.storedUiState l.stored = l.uiState
  | .reading p tab session rest => p.uiState = l.uiState ∧
    ∃ read, l.tabs = read ++ (tab, session) :: rest ∧ Mirrors l.echo read p.records.reverse
  | .writing p => p.uiState = l.uiState ∧ Mirrors l.echo l.tabs p.records.reverse

/-- How far a handler has come that waits at a point: a save tells the live state, a restore finds all tabs bound, and
a response has not been broken off by a delivery. -/
def Point.Fits (shelf : Shelf) (l : Live) : Point → Prop
  | .saving _ pt => SaveFits shelf l pt
  | .restoring pt => pt = .reading
  | .relaying _ (.closing (.broken f)) => ∃ tab message n cause, f = .relay tab message n cause
  | _ => True

/-- Whether a response was broken off by a delivery does not depend on the live state. -/
theorem fits_relaying {shelf : Shelf} {l l' : Live} {p : Prompt} {pt : Relay.Point}
    (h : (Point.relaying p pt).Fits shelf l) : (Point.relaying p pt).Fits shelf l' := by
  cases pt with
  | closing ending => cases ending <;> exact h
  | _ => trivial

/-- A handler that waits at the point has changed what a snapshot holds, or has begun to save. -/
def Point.Owes : Point → Prop
  | .relaying _ (.closing (.exhausted _)) => True
  | .passing _ (.completion _) _ => True
  | .saving _ _ => True
  | _ => False

/-- A handler owes a save when it goes on from a point of a response: the agent has come to its end, or the handler
owed one before. -/
def Point.OwesAfter (a : Except Fault Answer) : Point → Prop
  | .relaying _ (.pulling _) => a = .ok .exhausted
  | pt => pt.Owes

/-- A request after which something was saved: for a new tab, for a state to be kept, for a prompt from a tab that had
a session, or because the surface was hidden. -/
def Request.SavedBy (r : Request) (result : Except Fault Outcome) : Prop :=
  r.Saves ∨ r = .hidden ∨
    ∃ tab message text, r.Asks (.prompt tab message text) ∧ result ≠ .ok (.missingMapping tab message)

/-! ## Turns -/

/-- A turn of a handler that has not just written: where it waits is fitting, it owes what it has to, and only a
request that saves nothing is over. -/
structure Turn.Sound (shelf : Shelf) (l : Live) (r : Request) (owes : Prop) (t : Turn) : Prop where
  waits : Calls (fun pt _ => pt.Fits shelf l ∧ (owes → pt.Owes)) t.next
  ends : ∀ result, t.next = .finished result → ¬ owes ∧ ¬ r.SavedBy result

section

variable {shelf : Shelf} {l : Live} {r : Request} {owes : Prop} {c : Coordinator}

theorem Turn.Sound.report {t : Turn} (h : t.Sound shelf l r owes) (notices : List Notice) :
    (t.report notices).Sound shelf l r owes := ⟨h.waits, h.ends⟩

theorem sound_await {call : Call} {pt : Point} (h : pt.Fits shelf l) (howes : owes → pt.Owes) :
    (await c call pt).Sound shelf l r owes :=
  ⟨calls_waiting ⟨h, howes⟩, fun _ hn => nomatch hn⟩

theorem sound_saving (c : Coordinator) (call : Call) (purpose : Purpose) (pt : Save.Point) (h : SaveFits shelf l pt) :
    (await c call (.saving purpose pt)).Sound shelf l r owes := by
  have hfits : (Point.saving purpose pt).Fits shelf l := h
  have howes : (Point.saving purpose pt).Owes := trivial
  exact sound_await hfits fun _ => howes

theorem sound_finish {outcome : Outcome} (howes : ¬ owes) (h : ¬ r.SavedBy (.ok outcome)) :
    (finish c outcome).Sound shelf l r owes := by
  refine ⟨calls_finished _, fun result hn => ⟨howes, ?_⟩⟩
  cases hn
  exact h

/-- A save goes on to read what is left, or to write. -/
theorem sound_advance {purpose : Purpose} {notices : List Notice} {p : Save.Progress} {read rest : TabMap}
    (hui : p.uiState = l.uiState) (htabs : l.tabs = read ++ rest) (hread : Mirrors l.echo read p.records.reverse) :
    (afterSave c purpose ⟨notices, Save.advance c.shelf p rest⟩).Sound shelf l r owes := by
  cases rest with
  | nil =>
    rw [List.append_nil] at htabs
    exact (sound_saving c _ purpose (.writing p) ⟨hui, htabs ▸ hread⟩).report _
  | cons b rest => exact (sound_saving c _ purpose (.reading p b.1 b.2 rest) ⟨hui, read, htabs, hread⟩).report _

/-- A save begins, with the state that the surface handed over last or with the stored one. -/
theorem sound_persist (purpose : Purpose) (hopen : c.closed = false) (htabs : c.tabs = l.tabs)
    {uiState : Option Json}
    (hui : uiState = some l.uiState ∨ uiState = none ∧ shelf.storedUiState l.stored = l.uiState) :
    (persist c purpose uiState).Sound shelf l r owes := by
  simp only [persist, hopen, Bool.false_eq_true, if_false, save]
  rcases hui with rfl | ⟨rfl, hstored⟩
  · rw [htabs]
    exact sound_advance rfl (show l.tabs = [] ++ l.tabs from rfl) .nil
  · exact (sound_saving c _ purpose .recalling hstored).report _

section

variable (hopen : c.closed = false) (htabs : c.tabs = l.tabs)
  (hstored : shelf.storedUiState l.stored = l.uiState)
include hopen htabs hstored

theorem sound_afterReport (p : Prompt) (cause : Fault) (n : Nat) {t : Outbox.Turn Outbound} (ht : t.Calm) :
    (afterReport c p cause n t).Sound shelf l r False := by
  unfold afterReport
  refine Turn.Sound.report ?_ _
  rcases hn : t.next with (f | _) | ⟨e, pt⟩
  · exact absurd hn (ht f)
  · exact sound_persist (c := { c with outbox := t.outbox }) _ hopen htabs (.inr ⟨rfl, hstored⟩)
  · exact sound_await trivial False.elim

/-- A relay is over, or waits for its stream. -/
theorem sound_afterRelay (p : Prompt) {next : Next Call Relay.Point Nat}
    (hwaits : Calls (fun pt _ => (Point.relaying p pt).Fits shelf l ∧ (owes → (Point.relaying p pt).Owes)) next)
    (hfails : ∀ f, next = .finished (.error f) → ¬ owes ∧ ∃ tab message n cause, f = .relay tab message n cause) :
    (afterRelay c p next).Sound shelf l r owes := by
  rcases next with (f | n) | ⟨call, pt⟩
  · obtain ⟨howes, tab, message, n, cause, rfl⟩ := hfails f rfl
    have hreport := sound_afterReport (r := r) hopen htabs hstored p cause n
      (Outbox.calm_send c.outbox (.failed p.tab p.message cause.text))
    exact ⟨fun call pt hn => ⟨(hreport.waits call pt hn).1, fun h => absurd h howes⟩,
      fun result hn => ⟨howes, (hreport.ends result hn).2⟩⟩
  · exact (sound_persist _ hopen htabs (.inr ⟨rfl, hstored⟩)).report _
  · exact sound_await (hwaits call pt rfl).1 (hwaits call pt rfl).2

/-- An event of a response is on its way, or was taken. -/
theorem sound_afterPass (p : Prompt) (handover : Relay.Handover) {t : Outbox.Turn Outbound} (ht : t.Calm)
    (howes : owes → ∃ n, handover = .completion n) : (afterPass c p handover t).Sound shelf l r owes := by
  unfold afterPass
  refine Turn.Sound.report ?_ _
  rcases hn : t.next with (f | _) | ⟨e, pt⟩
  · exact absurd hn (ht f)
  · refine sound_afterRelay (c := { c with outbox := t.outbox }) hopen htabs hstored p ?_ ?_
    · cases handover with
      | chunk n => exact calls_waiting ⟨trivial, fun h => nomatch howes h⟩
      | completion n => exact calls_finished _
    · cases handover <;> exact fun f h => nomatch h
  · refine sound_await trivial fun h => ?_
    obtain ⟨n, rfl⟩ := howes h
    trivial

/-- A relay goes on. Nothing but its stream fails. -/
theorem sound_afterStep (p : Prompt) {pt : Relay.Point} (hfits : (Point.relaying p pt).Fits shelf l)
    {a : Except Fault Answer} (ha : (∀ n, pt ≠ .pulling n) → ∃ b, a = .ok b) :
    (afterStep c p (Relay.resume p pt a)).Sound shelf l r ((Point.relaying p pt).OwesAfter a) := by
  cases pt with
  | opening =>
    obtain ⟨b, rfl⟩ := ha (by simp)
    exact sound_await trivial id
  | pulling n =>
    rcases a with f | _ | _ | _ | piece | _
    · have hbroken : (Point.relaying p (.closing (.broken (.relay p.tab p.message n f)))).Fits shelf l :=
        ⟨_, _, _, _, rfl⟩
      exact sound_await hbroken fun h => nomatch h
    · exact sound_await trivial fun _ => trivial
    · exact sound_await trivial fun _ => trivial
    · exact sound_await trivial fun _ => trivial
    · exact sound_afterPass hopen htabs hstored p (.chunk n) (Outbox.calm_send _ _) fun h => nomatch h
    · exact sound_await trivial fun _ => trivial
  | closing ending =>
    obtain ⟨b, rfl⟩ := ha (by simp)
    cases ending with
    | exhausted n =>
      exact sound_afterPass hopen htabs hstored p (.completion n) (Outbox.calm_send _ _) fun _ => ⟨n, rfl⟩
    | broken f =>
      refine sound_afterRelay hopen htabs hstored p (calls_finished _) fun f' hf' => ⟨id, ?_⟩
      cases hf'
      exact hfits

end

theorem sound_afterReplay (hr : ¬ r.SavedBy (.ok .shown)) {t : Outbox.Turn Outbound} (ht : t.Calm) :
    (afterReplay c t).Sound shelf l r False := by
  unfold afterReplay
  refine Turn.Sound.report ?_ _
  rcases hn : t.next with (f | _) | ⟨e, pt⟩
  · exact absurd hn (ht f)
  · exact sound_finish id hr
  · exact sound_await trivial False.elim

/-! ## Restoring -/

/-- The value is none, or a snapshot of tabs that are bound. -/
def Restorable (shelf : Shelf) (tabs : TabMap) (v : Json) : Prop :=
  v = .null ∨ ∃ records ui, v = (Snapshot.mk shelf.version records ui).toJson ∧ ∀ r ∈ records, Bound tabs r.tab

/-- A restore of bound tabs resumes no session. -/
theorem advance_of_bound {tabs : TabMap} {records : List SessionRecord} (h : ∀ r ∈ records, Bound tabs r.tab)
    (progress : Restore.Progress) :
    ∃ m, (Restore.advance tabs progress (records.map Snapshot.recordMember)).next = .finished (.ok m) := by
  induction records generalizing progress with
  | nil => exact ⟨_, rfl⟩
  | cons record rest ih =>
    obtain ⟨live, hlive⟩ := Option.ne_none_iff_exists'.1 (h record List.mem_cons_self)
    obtain ⟨m, hm⟩ := ih (fun r hr => h r (List.mem_cons_of_mem _ hr)) (progress.add record.tab)
    have hsession : Restore.recordSession? (Snapshot.recordMember record).2 = some record.session := by
      simp [Snapshot.recordMember, Restore.recordSession?, Json.get?, Json.str?]
    have hmember : Snapshot.recordMember record = (record.tab, (Snapshot.recordMember record).2) := rfl
    refine ⟨m, ?_⟩
    rw [List.map_cons, hmember]
    simp only [Restore.advance, hsession, hlive]
    exact hm

/-- A restore of such a value ends at once. -/
theorem Restorable.finished {shelf : Shelf} {tabs : TabMap} {v : Json} (h : Restorable shelf tabs v) :
    ∃ m, (Restore.resume shelf tabs .reading (.ok (.value v))).next = .finished (.ok m) := by
  rcases h with hnull | ⟨records, ui, hsnapshot, hbound⟩
  · rw [hnull]
    exact ⟨_, rfl⟩
  · rw [hsnapshot]
    show ∃ m, (Restore.read shelf tabs (Snapshot.mk shelf.version records ui).toJson).next = _
    rw [Restore.read_toJson]
    exact advance_of_bound hbound _

/-- The stored value is restored at once. -/
theorem sound_restore (hstored : Restorable c.shelf c.tabs l.stored) :
    (c.resume (.ok (.value l.stored)) (.restoring .reading)).Sound shelf l r False := by
  obtain ⟨m, hm⟩ := hstored.finished
  show (afterRestore c _).Sound shelf l r False
  unfold afterRestore
  refine Turn.Sound.report ?_ _
  rw [hm]
  exact sound_await trivial id

/-! ## Requests -/

theorem not_savedBy_of_asks {event : Inbound} (h : r.Asks event) (hnew : ∀ tab, event ≠ .newTab tab)
    (hkeep : ∀ state, event ≠ .saveState state) {result : Except Fault Outcome}
    (hprompt : ∀ tab message text, event = .prompt tab message text → result = .ok (.missingMapping tab message)) :
    ¬ r.SavedBy result := by
  rintro ((⟨tab, hr⟩ | ⟨state, hr⟩) | rfl | ⟨tab, message, text, hr, hne⟩)
  · exact hnew tab (h.unique hr)
  · exact hkeep state (h.unique hr)
  · obtain ⟨m, hm, -⟩ := h
    cases hm
  · exact hne (hprompt tab message text (h.unique hr))

theorem not_savedBy_visible (result : Except Fault Outcome) : ¬ Request.visible.SavedBy result := by
  rintro ((⟨tab, m, hm, -⟩ | ⟨state, m, hm, -⟩) | h | ⟨tab, message, text, ⟨m, hm, -⟩, -⟩)
  all_goals cases ‹_›

theorem not_savedBy_of_refused {m : Json} {refusal : Inbound.Refusal} (hm : Inbound.ofJson m = .error refusal)
    (result : Except Fault Outcome) : ¬ (Request.inbound m).SavedBy result := by
  rintro ((⟨tab, hasks⟩ | ⟨state, hasks⟩) | h | ⟨tab, message, text, hasks, -⟩)
  case inr.inl => cases h
  all_goals
    obtain ⟨m', hr', hm'⟩ := hasks
    obtain rfl := Request.inbound.inj hr'
    rw [hm] at hm'
    cases hm'

theorem lastState_append (requests : List Request) (r : Request) :
    lastState (requests ++ [r]) = r.keptState?.getD (lastState requests) := by
  unfold lastState
  rcases hr : r.keptState? with _ | state <;> simp [hr]

/-- The state that an event hands over to be kept. -/
theorem sound_beginEvent {event : Inbound} (hr : r.Asks event) (hopen : c.closed = false) (htabs : c.tabs = l.tabs)
    (hui : r.keptState? = some l.uiState ∨ r.keptState? = none ∧ shelf.storedUiState l.stored = l.uiState) :
    (beginEvent c event).Sound shelf l r False := by
  obtain ⟨m, rfl, hm⟩ := hr
  have hasks : (Request.inbound m).Asks event := ⟨m, rfl, hm⟩
  cases event with
  | newTab tab => exact sound_await trivial id
  | prompt tab message text =>
    simp only [beginEvent]
    split
    · exact sound_await trivial id
    · refine (sound_finish id (not_savedBy_of_asks hasks (by simp) (by simp) ?_)).report _
      rintro tab' message' text' h
      cases h
      rfl
  | saveState state =>
    have hstate : state = l.uiState := by simpa [Request.keptState?, hm] using hui
    subst hstate
    exact sound_persist .keeping hopen htabs (.inl rfl)
  | requestSavedState =>
    have hfits : (Point.restoring .reading).Fits shelf l := rfl
    exact (sound_await hfits id).report _

/-- A request begins. -/
theorem sound_begin [Host] (hr : r ≠ .shutdown) (hopen : c.closed = false) (htabs : c.tabs = l.tabs)
    (hui : r.keptState? = some l.uiState ∨ r.keptState? = none ∧ shelf.storedUiState l.stored = l.uiState) :
    (c.begin r).Sound shelf l r False := by
  cases r with
  | shutdown => exact absurd rfl hr
  | hidden =>
    have hstored := (hui.resolve_left (by simp [Request.keptState?])).2
    exact (sound_persist (c := { c with outbox := c.outbox.hold }) .hiding hopen htabs (.inr ⟨rfl, hstored⟩)).report _
  | visible =>
    exact (sound_afterReplay (not_savedBy_visible _) (Outbox.calm_flush _)).report _
  | inbound m =>
    simp only [begin, beginInbound, hopen, Bool.false_eq_true, if_false]
    cases hm : Inbound.ofJson m with
    | error refusal =>
      exact ⟨calls_drop c refusal, fun result _ => ⟨id, not_savedBy_of_refused hm result⟩⟩
    | ok event => exact sound_beginEvent ⟨m, rfl, hm⟩ hopen htabs hui

end

end Coordinator

end ChatRelay
