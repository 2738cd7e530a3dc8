import ChatRelay.Proofs.Coordinator.Ensemble

/-!
# Every tab has a session of its own

- `Ensemble.Housed`: in an orderly schedule every tab is bound from its opening on, to a session that no other tab has
  (`Ensemble.housed_change`).
-/

namespace ChatRelay.Coordinator

/-! ## Requests of a scene -/

/-- The requests of a scene, in the order in which they were begun. -/
def Scene.requests (s : Scene) : List Request := s.handlers.map (·.request)

theorem Scene.requests_get {s : Scene} {i : Nat} {h : Handler} (hi : s.handlers[i]? = some h) :
    s.requests[i]? = some h.request := by
  simp [requests, hi]

/-- An answer begins no request. -/
theorem Scene.requests_answer [Host] {s : Scene} {i : Nat} {r : Request} {d : List (Call × Except Fault Answer)}
    {call : Call} {pt : Point} (hi : s.handlers[i]? = some ⟨r, d, .waiting call pt⟩) (a : Except Fault Answer) :
    (s.step (.answer i a)).requests = s.requests := by
  rw [Scene.step_answer hi]
  exact Schedule.requests_answer hi

/-- The handler of a request that opens a tab waits for its session, or saves. -/
theorem Point.Serves.opens {pt : Point} {r : Request} (h : pt.Serves r) {tab : String} (hr : r.Asks (.newTab tab)) :
    pt = .creating tab ∨ ∃ purpose sp, pt = .saving purpose sp := by
  cases pt with
  | creating tab' =>
    cases hr.unique h
    exact .inl rfl
  | saving purpose sp => exact .inr ⟨purpose, sp, rfl⟩
  | relaying p pt => cases hr.unique h
  | passing p handover pt => cases hr.unique h
  | reporting p cause n pt => cases hr.unique h
  | restoring pt => cases hr.unique h
  | announcing restored => cases hr.unique h
  | replaying pt =>
    obtain ⟨m, rfl, -⟩ := hr
    cases h

theorem saving_of_afterSave {c : Coordinator} {purpose : Purpose} {t : Save.Turn} {call : Call} {pt : Point}
    (h : (afterSave c purpose t).next = .waiting call pt) : ∃ sp, pt = .saving purpose sp := by
  unfold afterSave at h
  rcases ht : t.next with (f | saved) | ⟨call', sp⟩ <;> rw [ht] at h
  · cases h
  · cases purpose <;> cases h
  · cases h
    exact ⟨sp, rfl⟩

/-- The tab of a session that has come is bound, and its handler saves. -/
theorem resume_creating {c : Coordinator} (hopen : c.closed = false) (tab session : String) :
    (c.resume (.ok (.session session)) (.creating tab)).coordinator.tabs = c.tabs.bind tab session ∧
      (c.resume (.ok (.session session)) (.creating tab)).next =
        .waiting (.getValue c.shelf.key) (.saving (.opening tab session) .recalling) := by
  simp only [resume, openTab, persist, hopen]
  exact ⟨rfl, rfl⟩

namespace Ensemble

/-! ## Sessions of tabs -/

/-- The tabs of an ensemble. -/
abbrev tabs (s : Ensemble) : TabMap := s.scene.coordinator.tabs

/-- Every tab is opened once, is bound when its session has come, and has a session of its own. Only tabs that are bound
are prompted. -/
structure Housed (ids : Nat → String) (s : Ensemble) : Prop where
  once : ∀ (i j : Nat) (h h' : Handler) (tab : String), s.scene.handlers[i]? = some h → s.scene.handlers[j]? = some h' →
    h.request.opens? = some tab → h'.request.opens? = some tab → i = j
  opening : ∀ h ∈ s.scene.handlers, ∀ tab, h.request.opens? = some tab →
    ((∃ call, h.status = .waiting call (.creating tab)) ↔ ¬ Bound s.tabs tab)
  opened : ∀ tab, Bound s.tabs tab → ∃ h ∈ s.scene.handlers, h.request.opens? = some tab
  prompted : ∀ h ∈ s.scene.handlers, ∀ tab, h.request.prompts? = some tab → Bound s.tabs tab
  issued : ∀ tab session, s.tabs.session? tab = some session → ∃ n < s.issued, session = ids n
  apart : ∀ tab tab' session, s.tabs.session? tab = some session → s.tabs.session? tab' = some session → tab = tab'

theorem housed_start (ids : Nat → String) (shelf : Shelf) (visible : Bool) (delay : Delay) :
    Housed ids (start shelf visible delay) where
  once := fun _ _ _ _ _ hi => nomatch hi
  opening := fun _ hh => absurd hh List.not_mem_nil
  opened := fun _ hb => absurd rfl hb
  prompted := fun _ hh => absurd hh List.not_mem_nil
  issued := fun _ _ hs => nomatch hs
  apart := fun _ _ _ hs => nomatch hs

section

variable [Host] {ids : Nat → String} (hids : Function.Injective ids) {shelf : Shelf} {visible : Bool} {s s' : Ensemble}
  (hb : Backed shelf visible s)

/-- A request has begun. -/
theorem scene_begun (s : Ensemble) (r : Request) : (s.begun r).scene =
    ⟨(s.scene.coordinator.begin r).coordinator,
      s.scene.handlers ++ [⟨r, [], (s.scene.coordinator.begin r).next⟩]⟩ := rfl

theorem tabs_begun (s : Ensemble) (r : Request) : (s.begun r).tabs = s.tabs := tabs_begin s.scene.coordinator r

theorem requests_begun (s : Ensemble) (r : Request) : (s.begun r).scene.requests = s.scene.requests ++ [r] := by
  simp [scene_begun, Scene.requests]

include hb in
/-- The handler of a new tab begins with asking for its session. -/
theorem creating_begin {r : Request} {tab : String} (hr : r.Asks (.newTab tab)) :
    (s.scene.coordinator.begin r).next = .waiting .createSession (.creating tab) := by
  obtain ⟨m, rfl, hm⟩ := hr
  simp only [begin, beginInbound, hb.unclosed, hm]
  rfl

include hb in
theorem housed_begin (h : Housed ids s) {r : Request} (hr : s.Admits r) : Housed ids (s.begun r) := by
  have hmem {h' : Handler} (hh : h' ∈ (s.begun r).scene.handlers) : h' ∈ s.scene.handlers ∨
      h' = ⟨r, [], (s.scene.coordinator.begin r).next⟩ := (List.mem_append.1 hh).imp_right List.mem_singleton.1
  have hold {h' : Handler} (hh : h' ∈ s.scene.handlers) : h' ∈ (s.begun r).scene.handlers := List.mem_append_left _ hh
  refine ⟨?_, ?_, ?_, ?_, by rw [tabs_begun]; exact h.issued, by rw [tabs_begun]; exact h.apart⟩
  · intro i j h₁ h₂ tab hi hj h₁tab h₂tab
    rcases Schedule.handler_begin hi with hi | ⟨hile, rfl⟩ <;> rcases Schedule.handler_begin hj with hj | ⟨hjle, rfl⟩
    · exact h.once i j h₁ h₂ tab hi hj h₁tab h₂tab
    · exact absurd h₁tab (hr.once tab h₂tab h₁ (List.mem_of_getElem? hi))
    · exact absurd h₂tab (hr.once tab h₁tab h₂ (List.mem_of_getElem? hj))
    · have hilt := (List.getElem?_eq_some_iff.1 hi).1
      have hjlt := (List.getElem?_eq_some_iff.1 hj).1
      simp only [scene_begun, List.length_append, List.length_singleton] at hilt hjlt
      omega
  · rw [tabs_begun]
    intro h' hh tab htab
    rcases hmem hh with hh | rfl
    · exact h.opening h' hh tab htab
    · refine iff_of_true ⟨_, creating_begin hb (Request.opens?_eq_some.1 htab)⟩ fun hbound => ?_
      obtain ⟨h₀, hmem₀, h₀tab⟩ := h.opened tab hbound
      exact hr.once tab htab h₀ hmem₀ h₀tab
  · rw [tabs_begun]
    intro tab hbound
    obtain ⟨h₀, hmem₀, h₀tab⟩ := h.opened tab hbound
    exact ⟨h₀, hold hmem₀, h₀tab⟩
  · rw [tabs_begun]
    intro h' hh tab htab
    rcases hmem hh with hh | rfl
    · exact h.prompted h' hh tab htab
    · -- the handler that opened the tab is over, so it is bound
      obtain ⟨h₀, hmem₀, h₀tab⟩ := hr.opened tab htab
      obtain ⟨result, hresult⟩ := hr.settled tab htab h₀ hmem₀ (.inl h₀tab)
      by_contra hunbound
      obtain ⟨call, hwaiting⟩ := (h.opening h₀ hmem₀ tab h₀tab).2 hunbound
      rw [hresult] at hwaiting
      cases hwaiting

/-! ### Answers -/

section

variable {i : Nat} {r : Request} {d : List (Call × Except Fault Answer)} {call : Call} {pt : Point}
  (hi : s.scene.handlers[i]? = some ⟨r, d, .waiting call pt⟩)
include hi

/-- An answer begins no request. -/
theorem requests_answered (a : Except Fault Answer) (p : Play) :
    (s.answered i a p).scene.requests = s.scene.requests := Scene.requests_answer hi a

/-- A handler that is there after an answer was there with its request. -/
theorem handler_before {a : Except Fault Answer} {p : Play} {j : Nat} {h : Handler}
    (hj : (s.answered i a p).scene.handlers[j]? = some h) :
    ∃ h₀, s.scene.handlers[j]? = some h₀ ∧ h₀.request = h.request := by
  have hget := Scene.requests_get hj
  rw [requests_answered hi, Scene.requests, List.getElem?_map, Option.map_eq_some_iff] at hget
  exact hget

/-- A handler is there after an answer, with its request. -/
theorem handler_after (a : Except Fault Answer) (p : Play) {j : Nat} {h : Handler}
    (hj : s.scene.handlers[j]? = some h) : ∃ h' ∈ (s.answered i a p).scene.handlers, h'.request = h.request := by
  have hget := Scene.requests_get hj
  rw [← requests_answered hi a p] at hget
  obtain ⟨h', hmem, hrequest⟩ := List.mem_map.1 (List.mem_of_getElem? hget)
  exact ⟨h', hmem, hrequest⟩

include hb in
/-- Only a new session changes the tabs. -/
theorem tabs_answered (a : Except Fault Answer) (p : Play) (hpt : ∀ tab, pt ≠ .creating tab) :
    (s.answered i a p).tabs = s.tabs := by
  have hmem := List.mem_of_getElem? hi
  have hscene := scene_answered hi a p
  rw [tabs, hscene]
  have hrebinding := resume_rebinding s.scene.coordinator a pt
  generalize (s.scene.coordinator.resume a pt).coordinator.tabs = tabs' at hrebinding ⊢
  cases hrebinding with
  | opened tab b => exact absurd rfl (hpt tab)
  | revived q tab session rest b => cases hb.restores _ hmem call _ rfl _ rfl
  | forgotten sp a =>
    obtain rfl : r = .shutdown := hb.serving _ hmem call _ rfl
    cases (hb.calm _ hmem).stays
  | kept => rfl

/-- What the requests of the handlers say holds after an answer, when the tabs that were bound still are. -/
theorem housed_answer (h : Housed ids s) {a : Except Fault Answer} {p : Play}
    (hbound : ∀ tab, Bound s.tabs tab → Bound (s.answered i a p).tabs tab)
    (hopened : ∀ tab, Bound (s.answered i a p).tabs tab → Bound s.tabs tab ∨ r.opens? = some tab)
    (hopening : ∀ h' ∈ (s.answered i a p).scene.handlers, ∀ tab, h'.request.opens? = some tab →
      ((∃ call, h'.status = .waiting call (.creating tab)) ↔ ¬ Bound (s.answered i a p).tabs tab))
    (hissued : ∀ tab session, (s.answered i a p).tabs.session? tab = some session →
      ∃ n < p.issued, session = ids n)
    (hapart : ∀ tab tab' session, (s.answered i a p).tabs.session? tab = some session →
      (s.answered i a p).tabs.session? tab' = some session → tab = tab') : Housed ids (s.answered i a p) where
  once j k h₁ h₂ tab hj hk h₁tab h₂tab := by
    obtain ⟨h₁', hj', hr₁⟩ := handler_before hi hj
    obtain ⟨h₂', hk', hr₂⟩ := handler_before hi hk
    exact h.once j k h₁' h₂' tab hj' hk' (hr₁ ▸ h₁tab) (hr₂ ▸ h₂tab)
  opening := hopening
  opened tab hbound' := by
    rcases hopened tab hbound' with hbound' | hr
    · obtain ⟨h₀, hmem, htab⟩ := h.opened tab hbound'
      obtain ⟨j, hj⟩ := List.mem_iff_getElem?.1 hmem
      obtain ⟨h', hmem', hrequest⟩ := handler_after hi a p hj
      exact ⟨h', hmem', hrequest ▸ htab⟩
    · obtain ⟨h', hmem', hrequest⟩ := handler_after hi a p hi
      exact ⟨h', hmem', hrequest ▸ hr⟩
  prompted h' hh tab htab := by
    obtain ⟨j, hj⟩ := List.mem_iff_getElem?.1 hh
    obtain ⟨h₀, hj', hrequest⟩ := handler_before hi hj
    exact hbound tab (h.prompted h₀ (List.mem_of_getElem? hj') tab (hrequest ▸ htab))
  issued := hissued
  apart := hapart

include hb in
/-- An answer that brings no session. -/
theorem housed_still (h : Housed ids s) {a : Except Fault Answer} {p : Play} (hpt : ∀ tab, pt ≠ .creating tab)
    (hissued : p.issued = s.issued) : Housed ids (s.answered i a p) := by
  have htabs := tabs_answered hb hi a p hpt
  have hmem := List.mem_of_getElem? hi
  refine housed_answer hi h (fun tab => by rw [htabs]; exact id) (fun tab => by rw [htabs]; exact .inl) ?_
    (by rw [htabs, hissued]; exact h.issued) (by rw [htabs]; exact h.apart)
  rw [htabs, scene_answered hi]
  intro h' hh tab htab
  rcases List.mem_or_eq_of_mem_set hh with hh | rfl
  · exact h.opening h' hh tab htab
  · -- the handler is in its save, and stays there
    rcases (hb.serving _ hmem call pt rfl).opens (Request.opens?_eq_some.1 htab) with rfl | ⟨purpose, sp, rfl⟩
    · exact absurd rfl (hpt tab)
    · refine iff_of_false (fun ⟨call', hnext⟩ => ?_) fun hunbound => ?_
      · obtain ⟨sp', hsp⟩ := saving_of_afterSave hnext
        cases hsp
      · obtain ⟨call', hcreating⟩ := (h.opening _ hmem tab htab).2 hunbound
        cases hcreating

end

include hb in
/-- The session of a new tab has come. -/
theorem tabs_created {i : Nat} {r : Request} {d : List (Call × Except Fault Answer)} {call : Call} {tab : String}
    (hi : s.scene.handlers[i]? = some ⟨r, d, .waiting call (.creating tab)⟩) (session : String) (p : Play) :
    (s.answered i (.ok (.session session)) p).tabs = s.tabs.bind tab session := by
  rw [tabs, scene_answered hi]
  exact (resume_creating hb.unclosed tab session).1

omit [Host] in
include hids in
/-- The next session is none that a tab has. -/
theorem Housed.fresh (h : Housed ids s) (tab : String) : s.tabs.session? tab ≠ some (ids s.issued) := by
  intro hsession
  obtain ⟨n, hn, he⟩ := h.issued tab _ hsession
  exact absurd (hids he) (Nat.ne_of_gt hn)

include hids hb in
/-- A new tab is bound to a session that no tab has had. -/
theorem housed_created (h : Housed ids s) {i : Nat} {r : Request} {d : List (Call × Except Fault Answer)} {call : Call}
    {tab : String} (hi : s.scene.handlers[i]? = some ⟨r, d, .waiting call (.creating tab)⟩) {p : Play}
    (hissued : p.issued = s.issued + 1) : Housed ids (s.answered i (.ok (.session (ids s.issued))) p) := by
  have hmem := List.mem_of_getElem? hi
  have hopens : r.opens? = some tab := Request.opens?_eq_some.2 (hb.serving _ hmem call _ rfl)
  have hsaving := (resume_creating hb.unclosed tab (ids s.issued)).2
  have hscene := scene_answered hi (.ok (.session (ids s.issued))) p
  have htabs := tabs_created hb hi (ids s.issued) p
  refine housed_answer hi h (fun tab' => ?_) (fun tab' => ?_) ?_ (fun tab' session => ?_)
    (fun tab₁ tab₂ session => ?_) <;> rw [htabs]
  · rw [bound_bind]
    exact .inr
  · rw [bound_bind]
    rintro (rfl | hbound)
    · exact .inr hopens
    · exact .inl hbound
  · intro h' hh tab' htab'
    obtain ⟨j, hj⟩ := List.mem_iff_getElem?.1 hh
    rw [hscene] at hj
    rw [bound_bind]
    rcases Schedule.handler_answer hj with ⟨hji, hj⟩ | ⟨-, rfl⟩
    · -- another tab is opened here
      have hother : tab ≠ tab' := fun he => hji (h.once j i h' _ tab hj hi (he ▸ htab') hopens)
      rw [h.opening h' (List.mem_of_getElem? hj) tab' htab']
      simp [hother]
    · obtain rfl : tab = tab' := Option.some.inj (hopens.symm.trans htab')
      simp [hsaving]
  · rw [Scene.session?_bind]
    split
    · rintro ⟨⟩
      exact ⟨s.issued, by omega, rfl⟩
    · intro hsession
      obtain ⟨n, hn, he⟩ := h.issued tab' session hsession
      exact ⟨n, by omega, he⟩
  · rw [Scene.session?_bind, Scene.session?_bind]
    split <;> split
    · next he he' => exact fun _ _ => he.symm.trans he'
    · rintro ⟨⟩ hsession
      exact absurd hsession (h.fresh hids tab₂)
    · rintro hsession ⟨⟩
      exact absurd hsession (h.fresh hids tab₁)
    · exact h.apart tab₁ tab₂ session

include hids hb in
theorem housed_change (h : Housed ids s) {m : Move} (hs : Change ids s m s') (hm : ∀ r, m = .begin r → s.Admits r) :
    Housed ids s' := by
  cases hs with
  | idle => exact h
  | begin r => exact housed_begin hb h (hm r rfl)
  | perform => exact { h with }
  | pause => exact { h with }
  | answer _ i r d call pt a p _ hi ha =>
    have he := effect_of_answerable hb hi ha
    cases he with
    | created tab => exact housed_created hids hb h hi rfl
    | still _ _ _ _ hcreating => exact housed_still hb hi h hcreating rfl
    | _ => exact housed_still hb hi h (by simp) rfl

end

/-! ## The requests of a schedule -/

/-- The request that a move begins. -/
def Move.request? : Move → Option Request
  | .begin r => some r
  | _ => none

theorem requests_change [Host] {ids : Nat → String} {s s' : Ensemble} {m : Move} (hs : Change ids s m s') :
    s'.scene.requests = s.scene.requests ++ m.request?.toList := by
  have hnone (hm : ∀ r, m ≠ .begin r) : m.request? = none := by
    cases m with
    | begin r => exact absurd rfl (hm r)
    | _ => rfl
  cases hs with
  | idle _ hm => rw [hnone hm, Option.toList_none, List.append_nil]
  | begin r => exact requests_begun s r
  | perform => exact (List.append_nil _).symm
  | pause => exact (List.append_nil _).symm
  | answer _ i r d call pt a p hm hi =>
    rw [hnone hm, Option.toList_none, List.append_nil]
    exact requests_answered hi a p

/-- The requests of a schedule are begun in their order. -/
theorem requests_run [Host] (ids : Nat → String) (s : Ensemble) (moves : List Move) :
    (s.run ids moves).scene.requests = s.scene.requests ++ moves.filterMap Move.request? := by
  induction moves generalizing s with
  | nil => exact (List.append_nil _).symm
  | cons m moves ih =>
    rw [run, List.foldl_cons, ← run, ih, requests_change (step_change ids s m), List.append_assoc]
    cases m <;> rfl

end Ensemble

end ChatRelay.Coordinator
