import ChatRelay.Proofs.Coordinator.Duty
import Mathlib.Data.List.Basic

/-!
# Live tabs and their sessions

A restoration takes the stored sessions one after the other: it looks whether the tab is bound, has the session resumed
if it is not, and binds the tab when the session has come. Between the look and the binding other handlers go on.

- `Scene.Resumes`, `Scene.Brings`, `Scene.Revives`, `Scene.CallsFor`: the moments of this race;
- `Scene.Respects`: what one move owes to the tabs that are bound;
- `Scene.live_tabs_iff`: before a shutdown the moves of a schedule respect the live tabs exactly when no two
  restorations resume the session of one tab at once and no session that is resumed comes late, behind the new session
  of a new tab;
- `Scene.lateRevival_rebinds`: a session that comes late takes the place of the new one.
-/

namespace ChatRelay.Coordinator

/-! ## What a restoration asks for -/

/-- The tab whose stored session a handler has asked to be resumed. -/
def resuming? : Next Call Point Outcome → Option String
  | .waiting _ (.restoring (.resuming _ tab _ _)) => some tab
  | _ => none

theorem resuming?_eq_some {next : Next Call Point Outcome} {tab : String} (h : resuming? next = some tab) :
    ∃ call p session rest, next = .waiting call (.restoring (.resuming p tab session rest)) := by
  rcases next with r | ⟨call, pt⟩
  · cases h
  · cases pt with
    | restoring pt =>
      cases pt with
      | resuming p tab' session rest =>
        obtain rfl : tab' = tab := Option.some.inj h
        exact ⟨call, p, session, rest, rfl⟩
      | _ => cases h
    | _ => cases h

/-- The session of a tab is asked for only when the tab is not bound. -/
def AsksForUnbound (t : Restore.Turn) : Prop :=
  Calls (fun pt _ => ∀ p tab session rest, pt = .resuming p tab session rest → t.tabs.session? tab = none) t.next

theorem unbound_advance (tabs : TabMap) (progress : Restore.Progress) (records : List (String × Json)) :
    AsksForUnbound (Restore.advance tabs progress records) := by
  induction records generalizing progress with
  | nil => exact calls_finished _
  | cons r rest ih =>
    obtain ⟨tab, record⟩ := r
    unfold Restore.advance
    split
    · exact ih _
    · split
      · exact ih _
      · next hunbound =>
        refine calls_waiting fun p tab' session' rest' he => ?_
        obtain ⟨-, rfl, -, -⟩ := Restore.Point.resuming.inj he
        exact hunbound

theorem unbound_restoreResume (shelf : Shelf) (tabs : TabMap) (pt : Restore.Point) (a : Except Fault Answer) :
    AsksForUnbound (Restore.resume shelf tabs pt a) := by
  cases pt with
  | reading =>
    cases a with
    | error f => exact calls_finished _
    | ok a =>
      simp only [Restore.resume, Restore.read]
      split
      · split
        · exact unbound_advance _ _ _
        · exact calls_waiting (by simp)
      · exact calls_finished _
      · exact calls_finished _
  | discarding found => cases a <;> exact calls_finished _
  | resuming p tab session rest => cases a <;> exact unbound_advance _ _ _

/-- A handler that has just asked for the session of a tab has found the tab unbound. -/
theorem resuming_unbound (c : Coordinator) (a : Except Fault Answer) {pt : Point} {r : Request} (hpt : pt.Serves r)
    {tab : String} (h : resuming? (c.resume a pt).next = some tab) :
    (c.resume a pt).coordinator.tabs.session? tab = none := by
  obtain ⟨call, p, session, rest, hn⟩ := resuming?_eq_some h
  have hr : r.Asks .requestSavedState := serves_resume c a hpt call _ hn
  cases pt with
  | restoring pt =>
    have hu := unbound_restoreResume c.shelf c.tabs pt a
    simp only [resume, tabs_afterRestore]
    simp only [resume, afterRestore] at hn
    rcases ht : (Restore.resume c.shelf c.tabs pt a).next with (f | restored) | ⟨call', pt'⟩
    · rw [ht] at hn
      cases hn
    · rw [ht] at hn
      cases hn
    · rw [ht] at hn
      obtain ⟨rfl, hpt'⟩ := Next.waiting.inj hn
      exact hu _ _ ht p tab session rest (Point.restoring.inj hpt')
  | announcing restored => cases a <;> cases hn
  -- no other handler of a request for the saved state waits elsewhere
  | creating tab' => cases hr.unique hpt
  | relaying p' pt => cases hr.unique hpt
  | passing p' handover pt => cases hr.unique hpt
  | reporting p' cause n pt => cases hr.unique hpt
  | replaying pt =>
    obtain ⟨m, hm, -⟩ := hr
    cases hm.symm.trans hpt
  | saving purpose pt =>
    obtain ⟨m, rfl, hm⟩ := id hr
    cases purpose with
    | opening tab' session' => cases hr.unique hpt
    | completing p' n => cases hr.unique hpt
    | failing p' cause n => cases hr.unique hpt
    | keeping =>
      obtain ⟨state, hpt⟩ := hpt
      cases hr.unique hpt
    | _ => cases hpt

/-- No request begins with asking for a session. -/
theorem resuming?_begin [Host] (c : Coordinator) (r : Request) : resuming? (c.begin r).next = none := by
  by_contra h
  obtain ⟨tab, h⟩ := Option.ne_none_iff_exists'.1 h
  obtain ⟨call, p, session, rest, hn⟩ := resuming?_eq_some h
  obtain ⟨m, rfl, hm⟩ : r.Asks .requestSavedState := serves_begin c r call _ hn
  simp only [begin, beginInbound, hm] at hn
  split at hn <;> cases hn

namespace Scene

/-! ## The moments of the race -/

/-- A handler waits for the stored session of a tab to be resumed. -/
def Resumes (s : Scene) (i : Nat) (tab : String) : Prop :=
  ∃ h, s.handlers[i]? = some h ∧ resuming? h.status = some tab

/-- The move brings the new session of a new tab. -/
def Brings (s : Scene) (m : Move) (tab : String) : Prop :=
  ∃ i a h call, m = .answer i (.ok a) ∧ s.handlers[i]? = some h ∧ h.status = .waiting call (.creating tab)

/-- The move brings a stored session that was resumed for a tab. -/
def Revives (s : Scene) (m : Move) (tab : String) : Prop := ∃ i a, m = .answer i (.ok a) ∧ s.Resumes i tab

/-- With the move a handler asks for the stored session of a tab to be resumed. -/
def CallsFor [Host] (s : Scene) (m : Move) (i : Nat) (tab : String) : Prop :=
  (∃ a, m = .answer i a) ∧ (s.step m).Resumes i tab

/-- What a move owes to the tabs that are bound. -/
structure Respects [Host] (s : Scene) (m : Move) : Prop where
  /-- A bound tab gets another session only in the handling of a new-tab message for it. -/
  binding : ∀ tab session, s.coordinator.tabs.session? tab = some session →
    (s.step m).coordinator.tabs.session? tab = some session ∨
      ∃ i a h, m = .answer i a ∧ s.handlers[i]? = some h ∧ h.request.Asks (.newTab tab)
  /-- A session that was resumed is bound to a tab that is not bound. -/
  revival : ∀ tab, s.Revives m tab → s.coordinator.tabs.session? tab = none
  /-- A session is asked for only for a tab that is neither bound nor being resumed by another handler. -/
  call : ∀ i tab, s.CallsFor m i tab →
    (s.step m).coordinator.tabs.session? tab = none ∧ ∀ j, (s.step m).Resumes j tab → j = i

/-! ## Tabs and moves -/

theorem resumes_iff {s : Scene} {i : Nat} {tab : String} :
    s.Resumes i tab ↔ (s.handlers.map fun h => resuming? h.status)[i]? = some (some tab) := by
  simp [Resumes, List.getElem?_map]

theorem session?_bind (tabs : TabMap) (tab tab' session : String) :
    (tabs.bind tab session).session? tab' = if tab = tab' then some session else tabs.session? tab' :=
  Assoc.get?_put tab tab' session tabs

/-- A handler that resumes a session after a move has done so before, or the move has answered it. -/
theorem resumes_shift [Host] {s s' : Scene} {m : Move} (hs : Shift s m s') {i : Nat} {tab : String}
    (h : s'.Resumes i tab) :
    s.Resumes i tab ∨ ∃ a, m = .answer i a := by
  obtain ⟨h', hi, hr⟩ := h
  cases hs with
  | idle j a => exact .inl ⟨h', hi, hr⟩
  | begin r =>
    rcases Schedule.handler_begin hi with hi | ⟨-, rfl⟩
    · exact .inl ⟨h', hi, hr⟩
    · rw [resuming?_begin] at hr
      cases hr
  | answer j a r d call pt hj =>
    rcases Schedule.handler_answer hi with ⟨-, hi⟩ | ⟨rfl, -⟩
    · exact .inl ⟨h', hi, hr⟩
    · exact .inr ⟨a, rfl⟩

/-- Unless a shutdown is being handled, a move leaves the session of a tab alone, or brings the tab a session. -/
theorem session?_shift [Host] {s s' : Scene} {m : Move} (hs : Shift s m s') (hserve : s.Serving)
    (hopen : ∀ h ∈ s.handlers, h.request ≠ .shutdown) (tab : String) :
    s'.coordinator.tabs.session? tab = s.coordinator.tabs.session? tab ∨
      (s.Brings m tab ∨ s.Revives m tab) ∧ ∃ session, s'.coordinator.tabs.session? tab = some session := by
  cases hs with
  | idle => exact .inl rfl
  | begin r => exact .inl (by rw [tabs_begin])
  | answer j a r d call pt hj =>
    have hmem := List.mem_of_getElem? hj
    have hb := resume_rebinding s.coordinator a pt
    dsimp only [coordinator_mk]
    generalize (s.coordinator.resume a pt).coordinator.tabs = tabs at hb
    cases hb with
    | opened tab' a =>
      rw [session?_bind]
      split
      · next ht =>
        subst ht
        exact .inr ⟨.inl ⟨j, a, _, call, rfl, hj, rfl⟩, a.toSession, rfl⟩
      · exact .inl rfl
    | revived p tab' session rest a =>
      rw [session?_bind]
      split
      · next ht =>
        subst ht
        exact .inr ⟨.inr ⟨j, a, rfl, _, hj, rfl⟩, session, rfl⟩
      · exact .inl rfl
    | forgotten pt a =>
      have hr : r = .shutdown := hserve _ hmem call _ rfl
      exact absurd hr (hopen _ hmem)
    | kept => exact .inl rfl

section

variable [Host] {shelf : Shelf} {visible : Bool} {moves : List Move} {k l : Nat}

theorem serving_upTo : (upTo shelf visible moves k).Serving :=
  serving_run shelf visible _

/-- In a schedule without a shutdown no handler handles one. -/
theorem open_upTo (hopen : ∀ m ∈ moves, m ≠ .begin .shutdown) :
    ∀ h ∈ (upTo shelf visible moves k).handlers, h.request ≠ .shutdown :=
  Schedule.request_ne hopen

/-- A move of a schedule without a shutdown leaves the session of a tab alone, or brings the tab a session. -/
theorem session?_upTo (hopen : ∀ m ∈ moves, m ≠ .begin .shutdown) {m : Move} (hm : moves[k]? = some m) (tab : String) :
    (upTo shelf visible moves (k + 1)).coordinator.tabs.session? tab =
        (upTo shelf visible moves k).coordinator.tabs.session? tab ∨
      ((upTo shelf visible moves k).Brings m tab ∨ (upTo shelf visible moves k).Revives m tab) ∧
        ∃ session, (upTo shelf visible moves (k + 1)).coordinator.tabs.session? tab = some session := by
  rw [upTo_succ hm]
  exact session?_shift (step_shift _ m) serving_upTo (open_upTo hopen) tab

/-- A tab that is bound stays bound. -/
theorem bound_upTo (hopen : ∀ m ∈ moves, m ≠ .begin .shutdown) {tab : String} (hkl : k ≤ l)
    (hb : (upTo shelf visible moves k).coordinator.tabs.session? tab ≠ none) :
    (upTo shelf visible moves l).coordinator.tabs.session? tab ≠ none := by
  induction hkl with
  | refl => exact hb
  | @step l hkl ih =>
    rcases hm : moves[l]? with _ | m
    · rw [upTo_past hm]
      exact ih
    · rcases @session?_upTo _ shelf visible moves _ hopen _ hm tab with he | ⟨-, session, he⟩
      · rw [he]
        exact ih
      · simp [he]

/-- With a session that comes, a tab is bound. -/
theorem bound_of_session {m : Move} (hm : moves[k]? = some m) {tab : String}
    (h : (upTo shelf visible moves k).Brings m tab ∨ (upTo shelf visible moves k).Revives m tab) :
    (upTo shelf visible moves (k + 1)).coordinator.tabs.session? tab ≠ none := by
  rw [upTo_succ hm]
  generalize upTo shelf visible moves k = s at h
  rcases h with ⟨i, a, ⟨r, d, -⟩, call, rfl, hi, rfl⟩ | ⟨i, a, rfl, ⟨r, d, status⟩, hi, hr⟩
  · rw [step_answer hi]
    have hb := resume_rebinding s.coordinator (.ok a) (.creating tab)
    dsimp only [coordinator_mk]
    generalize (s.coordinator.resume (.ok a) (.creating tab)).coordinator.tabs = tabs at hb
    cases hb with
    | opened => simp [session?_bind]
    | kept pt a' h => exact absurd rfl (h tab a rfl)
  · obtain ⟨call, p, session, rest, rfl⟩ := resuming?_eq_some hr
    rw [step_answer hi]
    have hb := resume_rebinding s.coordinator (.ok a) (.restoring (.resuming p tab session rest))
    dsimp only [coordinator_mk]
    generalize (s.coordinator.resume (.ok a) (.restoring (.resuming p tab session rest))).coordinator.tabs = tabs at hb
    cases hb with
    | revived => simp [session?_bind]
    | kept pt a' h h' => exact absurd rfl (h' p tab session rest a rfl)

/-- A handler that a move makes ask for the session of a tab has found the tab unbound. -/
theorem unbound_of_callsFor {m : Move} (hm : moves[k]? = some m) {i : Nat} {tab : String}
    (h : (upTo shelf visible moves k).CallsFor m i tab) :
    (upTo shelf visible moves (k + 1)).coordinator.tabs.session? tab = none := by
  rw [upTo_succ hm]
  have hserve : (upTo shelf visible moves k).Serving := serving_upTo
  obtain ⟨⟨a, rfl⟩, h', hi, hr⟩ := h
  have hs := step_shift (upTo shelf visible moves k) (.answer i a)
  generalize upTo shelf visible moves k = s at hserve hs hi
  generalize s.step (.answer i a) = s' at hs hi
  cases hs with
  | idle _ _ hidle =>
    obtain ⟨call, p, session, rest, he⟩ := resuming?_eq_some hr
    obtain ⟨r, d, status⟩ := h'
    obtain rfl : status = _ := he
    exact absurd hi (hidle _ _ _ _)
  | answer _ _ r d call pt hj =>
    rcases Schedule.handler_answer hi with ⟨hne, -⟩ | ⟨-, rfl⟩
    · exact absurd rfl hne
    · exact resuming_unbound s.coordinator a (hserve _ (List.mem_of_getElem? hj) call pt rfl) hr

/-! ## Overtaken resumptions -/

/-- When no two handlers resume the session of one tab at once, a tab that is bound while its session is being resumed
got a new session since the handler asked. -/
theorem overtaken (hopen : ∀ m ∈ moves, m ≠ .begin .shutdown)
    (halone : ∀ k i j tab, (upTo shelf visible moves k).Resumes i tab → (upTo shelf visible moves k).Resumes j tab →
      i = j) {i : Nat} {tab : String} (hi : (upTo shelf visible moves k).Resumes i tab)
    (hb : (upTo shelf visible moves k).coordinator.tabs.session? tab ≠ none) :
    ∃ l < k, ∃ m, moves[l]? = some m ∧ (upTo shelf visible moves l).Brings m tab ∧
      ∀ n, l ≤ n → n ≤ k → (upTo shelf visible moves n).Resumes i tab := by
  induction k with
  | zero =>
    obtain ⟨h, hh, -⟩ := hi
    cases hh
  | succ k ih =>
    -- a moment that has been found for the first moves serves for one move more
    have later (hk : (upTo shelf visible moves k).Resumes i tab)
        (hbk : (upTo shelf visible moves k).coordinator.tabs.session? tab ≠ none) :
        ∃ l < k + 1, ∃ m, moves[l]? = some m ∧ (upTo shelf visible moves l).Brings m tab ∧
          ∀ n, l ≤ n → n ≤ k + 1 → (upTo shelf visible moves n).Resumes i tab := by
      obtain ⟨l, hl, m, hm, hbr, hall⟩ := ih hk hbk
      refine ⟨l, by omega, m, hm, hbr, fun n hln hn => ?_⟩
      rcases Nat.lt_or_eq_of_le hn with hn | rfl
      · exact hall n hln (by omega)
      · exact hi
    rcases hm : moves[k]? with _ | m
    · rw [upTo_past hm] at hi hb
      exact later hi hb
    · have hstep := @upTo_succ _ shelf visible moves _ _ hm
      rcases resumes_shift (step_shift _ m) (hstep ▸ hi) with hk | ⟨a, rfl⟩
      · by_cases hbk : (upTo shelf visible moves k).coordinator.tabs.session? tab = none
        · have hnew := @session?_upTo _ shelf visible moves _ hopen _ hm tab
          rw [hbk] at hnew
          rcases hnew with he | ⟨hbr | ⟨j, a, rfl, hj⟩, -⟩
          · exact absurd he hb
          · refine ⟨k, by omega, m, hm, hbr, fun n hkn hn => ?_⟩
            obtain rfl | rfl : n = k ∨ n = k + 1 := by omega
            · exact hk
            · exact hi
          · -- the handler whose session came resumes no longer, or has asked anew
            obtain rfl := halone k i j tab hk hj
            have hu := unbound_of_callsFor hm ⟨⟨_, rfl⟩, hstep ▸ hi⟩
            exact absurd hu hb
        · exact later hk hbk
      · have hu := unbound_of_callsFor hm ⟨⟨a, rfl⟩, hstep ▸ hi⟩
        exact absurd hu hb

end

/-! ## Live tabs -/

/-- **When live tabs keep their sessions.** In a schedule without a shutdown every move respects the tabs that are
bound exactly when no two handlers resume the session of one tab at once, and no session that was resumed comes for a
tab whose new session has come while the handler was waiting. In every such schedule, a tab whose session was resumed
is never asked for again. -/
theorem live_tabs_iff [Host] (shelf : Shelf) (visible : Bool) (moves : List Move)
    (hopen : ∀ m ∈ moves, m ≠ .begin .shutdown) :
    let s := upTo shelf visible moves
    ((∀ k m, moves[k]? = some m → (s k).Respects m) ↔
      (∀ k i j tab, (s k).Resumes i tab → (s k).Resumes j tab → i = j) ∧
      ∀ k i a tab, moves[k]? = some (.answer i (.ok a)) → (s k).Resumes i tab →
        ∀ l < k, ∀ m, moves[l]? = some m → (s l).Brings m tab → ∃ n, l ≤ n ∧ n ≤ k ∧ ¬(s n).Resumes i tab) ∧
    ∀ k l m m' i tab, k < l → moves[k]? = some m → moves[l]? = some m' → (s k).Revives m tab →
      ¬(s l).CallsFor m' i tab := by
  intro s
  refine ⟨⟨fun hall => ⟨fun k => ?_, ?_⟩, ?_⟩, ?_⟩
  · induction k with
    | zero =>
      rintro i j tab ⟨h, hh, -⟩
      cases hh
    | succ k ih =>
      intro i j tab hi hj
      rcases hm : moves[k]? with _ | m
      · have hs : s (k + 1) = s k := upTo_past hm
        rw [hs] at hi hj
        exact ih i j tab hi hj
      · have hs : s (k + 1) = (s k).step m := upTo_succ hm
        rw [hs] at hi hj
        rcases resumes_shift (step_shift (s k) m) hi with hi' | ⟨a, rfl⟩
        · rcases resumes_shift (step_shift (s k) m) hj with hj' | ⟨a, rfl⟩
          · exact ih i j tab hi' hj'
          · exact ((hall k _ hm).call j tab ⟨⟨a, rfl⟩, hj⟩).2 i hi
        · exact (((hall k _ hm).call i tab ⟨⟨a, rfl⟩, hi⟩).2 j hj).symm
  · intro k i a tab hm hi l hl m hml hbr
    -- the tab is bound ever since the new session came
    have hb := bound_upTo hopen (Nat.succ_le_of_lt hl) (bound_of_session hml (.inl hbr))
    exact absurd ((hall k _ hm).revival tab ⟨i, a, rfl, hi⟩) hb
  · rintro ⟨halone, htimely⟩ k m hm
    have hrevival : ∀ tab, (s k).Revives m tab → (s k).coordinator.tabs.session? tab = none := by
      rintro tab ⟨i, a, rfl, hi⟩
      by_contra hb
      obtain ⟨l, hl, m', hm', hbr, hres⟩ := overtaken hopen halone hi hb
      obtain ⟨n, hln, hnk, hn⟩ := htimely k i a tab hm hi l hl m' hm' hbr
      exact hn (hres n hln hnk)
    refine ⟨fun tab session hb => ?_, hrevival, fun i tab hcall => ⟨?_, fun j hj => ?_⟩⟩
    · rcases @session?_upTo _ shelf visible moves _ hopen _ hm tab with
        he | ⟨⟨i, a, h, call, rfl, hi, hst⟩ | hrev, -⟩
      · have hs : s (k + 1) = (s k).step m := upTo_succ hm
        exact .inl (hs ▸ he.trans hb)
      · exact .inr ⟨i, _, h, rfl, hi, serving_upTo h (List.mem_of_getElem? hi) call _ hst⟩
      · have hnone := hrevival tab hrev
        rw [hb] at hnone
        cases hnone
    · have hu := unbound_of_callsFor hm hcall
      rwa [upTo_succ hm] at hu
    · have hs : s (k + 1) = (s k).step m := upTo_succ hm
      exact halone (k + 1) j i tab (hs ▸ hj) (hs ▸ hcall.2)
  · intro k l m m' i tab hkl hm hm' hrev hcall
    have hb := bound_upTo hopen (Nat.succ_le_of_lt (Nat.lt_succ_of_lt hkl)) (bound_of_session hm (.inr hrev))
    exact hb (unbound_of_callsFor hm' hcall)

/-! ## A new tab while a session is resumed -/

/-- What the store holds: the tab `t` with its session. -/
def storedTab : Json := (Snapshot.mk 1 [⟨"t", "old", .null⟩] .null).toJson

section

attribute [local instance] Host.sample

/-- While the session of `t` is resumed another tab is opened, and a second restoration comes when `t` is bound. -/
def timelyRevival : List Move :=
  [.begin (.inbound savedStateMessage), .answer 0 (.ok (.value storedTab)), .begin (.inbound (newTabMessage "u")),
    .answer 1 (.ok (.session "new")), .answer 0 (.ok .done), .begin (.inbound savedStateMessage),
    .answer 2 (.ok (.value storedTab))]

/-- Every move of that schedule respects the live tabs. -/
theorem timelyRevival_respects :
    let s := upTo ⟨"k", 1⟩ true timelyRevival
    (∀ m ∈ timelyRevival, m ≠ .begin .shutdown) ∧ (s 4).Resumes 0 "t" ∧ (s 4).Revives (.answer 0 (.ok .done)) "t" ∧
      ∀ k m, timelyRevival[k]? = some m → (s k).Respects m := by
  intro s
  have hopen : ∀ m ∈ timelyRevival, m ≠ .begin .shutdown := by simp [timelyRevival]
  have hres : (s 4).Resumes 0 "t" := resumes_iff.2 rfl
  -- only the first handler ever resumes a session, and the tab is not bound then
  have hshort : ∀ k < 8, ∀ i < (s k).handlers.length,
      ∀ tab ∈ ((s k).handlers.map fun h => resuming? h.status)[i]?.join,
        i = 0 ∧ (s k).coordinator.tabs.session? tab = none := by decide
  have hall : ∀ k i tab, (s k).Resumes i tab → i = 0 ∧ (s k).coordinator.tabs.session? tab = none := by
    intro k i tab hi
    wlog hk : k < 8 generalizing k
    · have hs : s k = s 7 := upTo_of_length_le (by simp [timelyRevival]; omega)
      rw [hs] at hi ⊢
      exact this 7 hi (by omega)
    · have hlt : i < (s k).handlers.length := by
        obtain ⟨h, hh, -⟩ := hi
        exact (List.getElem?_eq_some_iff.1 hh).1
      exact hshort k hk i hlt tab (by simp [resumes_iff.1 hi])
  refine ⟨hopen, hres, ⟨0, .done, rfl, hres⟩, ?_⟩
  refine (live_tabs_iff ⟨"k", 1⟩ true timelyRevival hopen).1.2 ⟨fun k i j tab hi hj => ?_, ?_⟩
  · exact (hall k i tab hi).1.trans (hall k j tab hj).1.symm
  · intro k i a tab hm hi l hl m hml hbr
    have hb := bound_upTo hopen (Nat.succ_le_of_lt hl) (bound_of_session hml (.inl hbr))
    exact absurd (hall k i tab hi).2 hb

/-- While the session of `t` is resumed, a new tab `t` is opened. -/
def lateRevival : List Move :=
  [.begin (.inbound savedStateMessage), .answer 0 (.ok (.value storedTab)), .begin (.inbound (newTabMessage "t")),
    .answer 1 (.ok (.session "new"))]

/-- The session that comes late takes the place of the new one. -/
theorem lateRevival_rebinds :
    let s := (start ⟨"k", 1⟩ true).run lateRevival
    (∀ m ∈ lateRevival, m ≠ .begin .shutdown) ∧ s.coordinator.tabs.session? "t" = some "new" ∧
      (s.step (.answer 0 (.ok .done))).coordinator.tabs.session? "t" = some "old" ∧
      ¬s.Respects (.answer 0 (.ok .done)) := by
  intro s
  refine ⟨by simp [lateRevival], rfl, rfl, fun h => ?_⟩
  have hnone := h.revival "t" ⟨0, .done, rfl, resumes_iff.2 rfl⟩
  cases hnone

end

end Scene

end ChatRelay.Coordinator
