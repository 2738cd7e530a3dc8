import ChatRelay.Proofs.Agent.Echo
import ChatRelay.Proofs.Restart.Chat
import ChatRelay.Proofs.Restart.Surroundings
import ChatRelay.Proofs.Store.Holdings

/-!
# Saving a chat

A coordinator with its surroundings keeps a chat when the agent has the turns of every session in use and the store
holds the snapshot of the chat. A save brings the store up to date.

- `Chat.coordinator`: the coordinator of a chat between two requests;
- `Chat.Carried`, `Chat.Kept`: the surroundings of a chat before and after a save;
- `leads_save`: a save comes to its end, and what is stored then is the snapshot of the chat.
-/

namespace ChatRelay

namespace Chat

/-! ## Keeping a chat -/

/-- The coordinator of a chat between two requests. -/
def coordinator (s : Chat) (shelf : Shelf) : Coordinator :=
  ⟨shelf, s.tabs, ⟨s.visible, s.queue, false, false⟩, false⟩

/-- The entries of the store of a chat, with the records of the last save. -/
def entries (s : Chat) (shelf : Shelf) (records : List SessionRecord) : List (String × Json) :=
  if s.saved then [(shelf.key, s.stored shelf records)] else []

/-- What is true of every chat that came about by requests. -/
structure Sound [Host] (s : Chat) : Prop where
  distinct : (Assoc.keys s.tabs).Nodup
  /-- A turn lies in a list in the state of a session, and that in a record of a snapshot. -/
  legible : ∀ session, ∀ turn ∈ s.turns session, turn.LegibleAt 6
  /-- Nothing is held back while the surface is visible. -/
  calm : s.visible = true → s.queue = []
  unsaved : s.saved = false → s.uiState = .null

/-- The surroundings carry a chat: the store takes what is saved of it in a snapshot, and holds what the last save
left. -/
structure Carried [Host] (shelf : Shelf) (takes : Json → Prop) (s : Chat) (w : Coordinator.Surroundings) : Prop where
  sound : s.Sound
  delay : w.echo.delay = s.delay
  turns : ∀ b ∈ s.tabs, w.echo.history b.2 = .ok (s.turns b.2)
  issued : w.issued = s.issued
  taken : w.storage.Takes 2 = takes
  version : takes (.int shelf.version)
  uiState : takes s.uiState
  holds : ∃ records, w.storage.Holds (s.entries shelf records)

/-- The surroundings keep a chat: nothing has changed since the last save. -/
structure Kept [Host] (shelf : Shelf) (takes : Json → Prop) (s : Chat) (w : Coordinator.Surroundings) : Prop
    extends s.Carried shelf takes w where
  current : w.storage.Holds (s.entries shelf s.records)

variable {shelf : Shelf} {takes : Json → Prop} {s : Chat} {w : Coordinator.Surroundings} {storage : Storage}
  {records : List SessionRecord}

/-- A save of a chat that the surroundings carry. -/
theorem Carried.save [Host] (h : s.Carried shelf takes w) {uiState : Option Json} (hui : takes (s.save uiState).uiState)
    (hholds : storage.Holds ((s.save uiState).entries shelf s.records)) (htakes : storage.Takes = w.storage.Takes) :
    (s.save uiState).Kept shelf takes { w with storage := storage } where
  sound := ⟨h.sound.distinct, h.sound.legible, h.sound.calm, nofun⟩
  delay := h.delay
  turns := h.turns
  issued := h.issued
  taken := (congrFun htakes 2).trans h.taken
  version := h.version
  uiState := hui
  holds := ⟨_, hholds⟩
  current := hholds

/-! ## Stored values -/

/-- The store gives the stored value of a chat. -/
theorem get_of_holds [Host] (h : storage.Holds (s.entries shelf records)) :
    (storage.get shelf.key).1 = .ok (s.stored shelf records) := by
  rw [Storage.get_of_holds h]
  unfold entries stored
  split <;> simp

/-- The state of the surface is in every stored value. -/
theorem storedUiState [Host] (h : s.Sound) : shelf.storedUiState (s.stored shelf records) = s.uiState := by
  unfold stored
  split
  · exact Shelf.storedUiState_toJson shelf _ _
  · next hsaved => exact (h.unsaved (by simpa using hsaved)).symm

/-- A new snapshot takes the place of an old one. -/
theorem edit_entries (s : Chat) (shelf : Shelf) (old new : List SessionRecord) (uiState : Option Json) :
    (Storage.edit shelf.key ((s.save uiState).stored shelf new) (s.entries shelf old)).getD (s.entries shelf old) =
      (s.save uiState).entries shelf new := by
  have hnull : ((s.save uiState).stored shelf new).isNull = false := rfl
  have hsaved : (s.save uiState).entries shelf new = [(shelf.key, (s.save uiState).stored shelf new)] := rfl
  rw [hsaved, entries]
  split <;> simp [Storage.edit, hnull, Assoc.put]

theorem legible_record [Host] (h : s.Sound) (b : String × String) :
    (Snapshot.recordMember (s.record b)).2.LegibleAt 3 := by
  have hturns : (Json.arr (s.turns b.2)).LegibleAt 5 :=
    Json.legibleAt_arr_iff.2 ⟨Host.depthFault?_of_le (by decide), h.legible b.2⟩
  have hstate : (s.record b).state.LegibleAt 4 :=
    Json.legibleAt_obj_iff.2 ⟨Host.depthFault?_of_le (by decide), List.nodup_singleton _, by simpa using hturns⟩
  have hkeys : (Assoc.keys [("sessionId", Json.str b.2), ("state", (s.record b).state)]).Nodup := by
    simp [Assoc.keys]
  refine Json.legibleAt_obj_iff.2 ⟨Host.depthFault?_of_le (by decide), hkeys, ?_⟩
  simpa using ⟨Json.legibleAt_str _, hstate⟩

theorem keys_records (s : Chat) : Assoc.keys (s.records.map Snapshot.recordMember) = Assoc.keys s.tabs := by
  simp [Assoc.keys, records, Snapshot.recordMember, record, Function.comp_def]

/-- A snapshot is legible when its version and the state of the surface are. -/
theorem legible_snapshot [Host] (h : s.Sound) (hversion : (Json.int shelf.version).LegibleAt 2) {ui : Json}
    (hui : ui.LegibleAt 2) : (Snapshot.mk shelf.version s.records ui).toJson.LegibleAt 1 := by
  have hrecords : (Json.obj (s.records.map Snapshot.recordMember)).LegibleAt 2 := by
    refine Json.legibleAt_obj_iff.2 ⟨Host.depthFault?_of_le (by decide),
      (congrArg List.Nodup s.keys_records).mpr h.distinct, fun m hm => ?_⟩
    rw [records, List.map_map] at hm
    obtain ⟨b, -, rfl⟩ := List.mem_map.1 hm
    exact legible_record h b
  unfold Snapshot.toJson
  dsimp only
  split
  · refine Json.legibleAt_obj_iff.2 ⟨Host.depthFault?_of_le (by decide), by simp [Assoc.keys], ?_⟩
    simpa using ⟨hversion, hrecords⟩
  · refine Json.legibleAt_obj_iff.2 ⟨Host.depthFault?_of_le (by decide), by simp [Assoc.keys], ?_⟩
    simpa using ⟨hversion, hrecords, hui⟩

/-- A store takes the snapshots of a chat when it takes what comes from the surface. -/
theorem Sound.takes_snapshot [Host] (h : s.Sound) (hversion : storage.Takes 2 (.int shelf.version)) {ui : Json}
    (hui : storage.Takes 2 ui) : storage.Takes 1 (Snapshot.mk shelf.version s.records ui).toJson := by
  obtain ⟨store, disk⟩ := storage
  cases store with
  | memory held => trivial
  | file p => exact legible_snapshot h hversion hui

end Chat

namespace Coordinator

variable {ids : Nat → String} {shelf : Shelf} {takes : Json → Prop} {s : Chat} {w : Surroundings}

/-! ## Saves -/

/-- What a handler returns whose save has come to its end. -/
def Purpose.outcome (saved : SaveResult) : Purpose → Outcome
  | .opening tab session => .tabOpened tab session saved
  | .completing p n => .relayCompleted p.tab p.message n saved
  | .failing p cause n => .relayFailure p.tab p.message cause.text n
  | .keeping => .stateSaved saved
  | .hiding => .saved saved
  | .leaving => .saved saved

theorem next_conclude (c : Coordinator) (purpose : Purpose) (saved : SaveResult) :
    (conclude c purpose saved).next = .finished (.ok (purpose.outcome saved)) := by
  cases purpose <;> rfl

theorem coordinator_conclude (c : Coordinator) {purpose : Purpose} (h : purpose ≠ .leaving) (saved : SaveResult) :
    (conclude c purpose saved).coordinator = c := by
  cases purpose with
  | leaving => exact absurd rfl h
  | _ => rfl

/-- What a save has gathered when it has read the sessions that are left. -/
def gathered (s : Chat) (progress : Save.Progress) (rest : TabMap) : Save.Progress :=
  { progress with records := (rest.map s.record).reverse ++ progress.records }

theorem gathered_add (progress : Save.Progress) (b : String × String) (rest : TabMap) :
    gathered s (progress.add b.1 b.2 (s.record b).state) rest = gathered s progress (b :: rest) := by
  simp [gathered, Save.Progress.add, Chat.record]

/-- A save reads every session that is left, and writes the snapshot. -/
theorem leads_advance [Host] (c : Coordinator) (purpose : Purpose) {storage : Storage} {notices : List Notice}
    (rest : TabMap) (hreads : ∀ b ∈ rest, w.echo.history b.2 = .ok (s.turns b.2)) (progress : Save.Progress)
    (hupdate : w.storage.update c.shelf.key ((gathered s progress rest).snapshot c.shelf).toJson =
      (.ok (), storage, notices)) :
    Leads ids (afterSave c purpose ⟨[], Save.advance c.shelf progress rest⟩) w []
      (conclude c purpose (gathered s progress rest).result).coordinator { w with storage := storage }
      (.ok (purpose.outcome (gathered s progress rest).result)) := by
  induction rest generalizing progress with
  | nil =>
    have hwritten : w.answer ids (.updateValue c.shelf.key (progress.snapshot c.shelf).toJson) =
        (.ok .done, { w with storage := storage }) := by
      have hupdate : w.storage.update c.shelf.key (progress.snapshot c.shelf).toJson = (.ok (), storage, notices) :=
        hupdate
      simp [Surroundings.answer, hupdate, Except.map]
    refine Leads.ask rfl hwritten (by simp) ?_
    exact (Leads.finished (next_conclude c purpose progress.result)).report _
  | cons b rest ih =>
    have hread : w.answer ids (.readState b.2) = (.ok (.value (s.record b).state), w) := by
      simp [Surroundings.answer, Echo.state, hreads b List.mem_cons_self, Except.map, Chat.record]
    rw [← gathered_add] at hupdate ⊢
    refine Leads.ask rfl hread (by simp) ?_
    exact ih (fun b hb => hreads b (List.mem_cons_of_mem _ hb)) _ hupdate

/-- A save that has read every session of a chat. -/
theorem gathered_tabs (s : Chat) (ui : Json) : gathered s ⟨ui, [], []⟩ s.tabs = ⟨ui, s.records.reverse, []⟩ := by
  simp [gathered, Chat.records]

theorem result_gathered (s : Chat) (ui : Json) : (gathered s ⟨ui, [], []⟩ s.tabs).result = s.saveResult := by
  simp [gathered_tabs, Save.Progress.result, Chat.saveResult, Chat.records, Assoc.keys, Chat.record,
    Function.comp_def]

/-- A save comes to its end, and the store keeps the chat from then on. -/
theorem leads_save [Host] (h : s.Carried shelf takes w) {c : Coordinator} (hshelf : c.shelf = shelf)
    (htabs : c.tabs = s.tabs) (purpose : Purpose) {uiState : Option Json} (hui : takes (s.save uiState).uiState) :
    ∃ w', Leads ids (save c purpose uiState) w [] (conclude c purpose s.saveResult).coordinator w'
      (.ok (purpose.outcome s.saveResult)) ∧ (s.save uiState).Kept shelf takes w' := by
  subst hshelf
  obtain ⟨old, hold⟩ := h.holds
  have hsnapshot (ui : Json) : (gathered s ⟨ui, [], []⟩ s.tabs).snapshot c.shelf =
      ⟨c.shelf.version, s.records, ui⟩ := by
    simp [gathered_tabs, Save.Progress.snapshot]
  obtain ⟨storage, notices, hupdate, hholds, htakes⟩ := Storage.update_of_holds hold c.shelf.key
    (h.sound.takes_snapshot (h.taken ▸ h.version) (h.taken ▸ hui))
  have hcollect : Leads ids (afterSave c purpose ⟨[], Save.collect c.shelf s.tabs (s.save uiState).uiState⟩) w []
      (conclude c purpose s.saveResult).coordinator { w with storage := storage }
      (.ok (purpose.outcome s.saveResult)) := by
    rw [← result_gathered s (s.save uiState).uiState]
    exact leads_advance c purpose s.tabs h.turns _ (hsnapshot _ ▸ hupdate)
  refine ⟨{ w with storage := storage }, ?_, h.save hui (s.edit_entries _ _ _ uiState ▸ hholds) htakes⟩
  unfold save Save.start
  rw [htabs]
  cases uiState with
  | some ui => exact hcollect
  | none =>
    -- The state of the surface is the one that is stored.
    have hstored : w.answer ids (.getValue c.shelf.key) = (.ok (.value (s.stored c.shelf old)), w) := by
      simp [Surroundings.answer, Chat.get_of_holds hold, Except.map]
    refine Leads.ask rfl hstored (by simp) ?_
    show Leads ids (afterSave c purpose
      ⟨[], Save.collect c.shelf c.tabs (c.shelf.storedUiState (s.stored c.shelf old))⟩) w _ _ _ _
    rw [Chat.storedUiState h.sound, htabs]
    exact hcollect

end Coordinator

end ChatRelay
