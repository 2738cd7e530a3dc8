import ChatRelay.Proofs.Coordinator.Alone
import ChatRelay.Proofs.Coordinator.Setting
import ChatRelay.Proofs.Event.Grammar
import ChatRelay.Proofs.Json.RoundTrip

/-!
# Messages that are dropped

- `Vain`: the messages that nothing comes of;
- `Drops`: the messages that a coordinator drops, with the outcome and the notice of each;
- `Heard`: the messages that were read from a text, as all are that come from a surface;
- `Untold`: the messages whose drop it fails to tell, since the host does not show their type: none that was heard;
- `begin_of_drops`, `begin_of_untold`: the handler of such a message is finished as soon as it begins, with nothing
  done;
- `drops_iff`: no other message is told to be dropped;
- `dropped_without_effect`: messages are told from one another by what they say, and one that nothing comes of changes
  nothing, whatever else is going on. If it was read from a text, it is told to be dropped.
-/

namespace ChatRelay.Coordinator

open Inbound (Says Refused)

/-- Nothing comes of a message: of any message after shutdown, and before it of a message that makes no request, or of a
prompt from a tab that has no session. -/
def Vain (c : Coordinator) (m : Json) : Prop :=
  c.closed = true ∨ (∃ r, Refused m r) ∨
    ∃ tab message text, Says m (.prompt tab message text) ∧ c.tabs.session? tab = none

/-- A coordinator drops a message and tells why. -/
inductive Drops [Host] (c : Coordinator) (m : Json) : Outcome → Notice → Prop
  | closed : c.closed = true → Drops c m (.invalidEvent "coordinator is shut down") .inboundAfterShutdown
  | refused {r : Inbound.Refusal} {reason : String} : c.closed = false → Refused m r → r.text = .ok reason →
      Drops c m (.invalidEvent reason) (.inboundDropped reason)
  | unbound {tab message text : String} : c.closed = false → Says m (.prompt tab message text) →
      c.tabs.session? tab = none → Drops c m (.missingMapping tab message) (.promptDropped tab message)

/-- A coordinator fails to tell why it drops a message: the reason shows a type that the host turns into no text. -/
def Untold [Host] (c : Coordinator) (m : Json) (f : Fault) : Prop :=
  c.closed = false ∧ ∃ type, Refused m (.unknownType type) ∧ type.refusal? 0 = some f

/-- Whether an outcome tells that a message was dropped. -/
def Outcome.isDrop : Outcome → Bool
  | .invalidEvent _ => true
  | .missingMapping _ _ => true
  | _ => false

section

variable {c : Coordinator} {m : Json} {outcome : Outcome} {notice : Notice}

section

variable [Host]

/-- What a coordinator does with a message that is refused. -/
theorem begin_of_refused {r : Inbound.Refusal} (hopen : c.closed = false) (h : Refused m r) :
    c.begin (.inbound m) = c.drop r := by
  simp only [begin, beginInbound, hopen, Bool.false_eq_true, if_false, Inbound.ofJson_eq_error.2 h]

/-- A message that is dropped is handled at once: nothing is called for, and the coordinator is what it was. -/
theorem begin_of_drops (h : Drops c m outcome notice) :
    c.begin (.inbound m) = ⟨c, [notice], .finished (.ok outcome)⟩ := by
  cases h with
  | closed hclosed =>
    simp only [begin, beginInbound, hclosed, if_true]
    rfl
  | refused hopen hrefused htext =>
    rw [begin_of_refused hopen hrefused, drop, htext]
    rfl
  | unbound hopen hprompt htab =>
    have hm := Inbound.ofJson_eq_ok.2 hprompt
    simp only [begin, beginInbound, hopen, Bool.false_eq_true, if_false, hm, beginEvent, htab]
    rfl

/-- So is a message whose drop cannot be told. -/
theorem begin_of_untold {f : Fault} (h : Untold c m f) : c.begin (.inbound m) = ⟨c, [], .finished (.error f)⟩ := by
  obtain ⟨hopen, type, hrefused, hfault⟩ := h
  rw [begin_of_refused hopen hrefused, drop, Inbound.text_eq_error.2 ⟨type, rfl, hfault⟩]
  rfl

/-- A message that nothing comes of is dropped, if it can be told. -/
theorem Vain.dropped (h : Vain c m) : (∃ outcome notice, Drops c m outcome notice) ∨ ∃ f, Untold c m f := by
  cases hclosed : c.closed with
  | true => exact .inl ⟨_, _, .closed hclosed⟩
  | false =>
    rcases h with h | ⟨r, hrefused⟩ | ⟨tab, message, text, hprompt, htab⟩
    · cases hclosed.symm.trans h
    · rcases htext : r.text with f | reason
      · obtain ⟨type, rfl, hfault⟩ := Inbound.text_eq_error.1 htext
        exact .inr ⟨f, hclosed, type, hrefused, hfault⟩
      · exact .inl ⟨_, _, .refused hclosed hrefused htext⟩
    · exact .inl ⟨_, _, .unbound hclosed hprompt htab⟩

/-- A message is one that a text was read to, or there are no limits to reading one. -/
def Heard (m : Json) : Prop := Host.Boundless ∨ ∃ s, Json.read s = .ok m

/-- What was read from a text lies within the limits that it was read under. -/
theorem Heard.within (h : Heard m) : m.Within := by
  rcases h with hboundless | hread
  · exact Json.within_of_boundless hboundless m
  · exact Json.within_iff.2 (Json.legible_iff.2 hread).within

/-- Of a message that was heard it can be told. -/
theorem not_untold {f : Fault} (h : Heard m) : ¬Untold c m f := by
  rintro ⟨-, type, hrefused, hfault⟩
  obtain ⟨reason, htext⟩ := Inbound.text_of_refused h.within hrefused
  cases htext.symm.trans (Inbound.text_eq_error.2 ⟨type, rfl, hfault⟩)

theorem Vain.dropped_of_heard (h : Vain c m) (hm : Heard m) : ∃ outcome notice, Drops c m outcome notice :=
  h.dropped.resolve_right fun ⟨_, hf⟩ => not_untold hm hf

/-- The outcome of a message that is dropped is the one of its drop. -/
theorem Drops.of_next {outcome' : Outcome} (h : Drops c m outcome' notice)
    (hnext : (c.begin (.inbound m)).next = .finished (.ok outcome)) : ∃ notice, Drops c m outcome notice := by
  rw [begin_of_drops h] at hnext
  cases hnext
  exact ⟨notice, h⟩

end

/-- A save does not tell that a message was dropped. -/
theorem not_isDrop_save {purpose : Purpose} {uiState : Option Json}
    (h : (save c purpose uiState).next = .finished (.ok outcome)) : outcome.isDrop = false := by
  unfold save afterSave at h
  split at h
  · cases purpose <;> cases h <;> rfl
  · cases h
  · cases h

/-- A message is told to be dropped exactly when it is. -/
theorem drops_iff [Host] :
    (∃ notice, Drops c m outcome notice) ↔
      (c.begin (.inbound m)).next = .finished (.ok outcome) ∧ outcome.isDrop = true := by
  constructor
  · rintro ⟨notice, h⟩
    rw [begin_of_drops h]
    refine ⟨rfl, ?_⟩
    cases h <;> rfl
  · rintro ⟨hnext, hdrop⟩
    cases hclosed : c.closed with
    | true => exact Drops.of_next (.closed hclosed) hnext
    | false =>
      cases hm : Inbound.ofJson m with
      | error r =>
        have hrefused := Inbound.ofJson_eq_error.1 hm
        rcases htext : r.text with f | reason
        · rw [begin_of_refused hclosed hrefused, drop, htext] at hnext
          cases hnext
        · exact Drops.of_next (.refused hclosed hrefused htext) hnext
      | ok event =>
        have hbegin : c.begin (.inbound m) = beginEvent c event := by
          simp only [begin, beginInbound, hclosed, Bool.false_eq_true, if_false, hm]
        cases event with
        | newTab tab => rw [hbegin] at hnext; cases hnext
        | prompt tab message text =>
          cases htab : c.tabs.session? tab with
          | some session =>
            simp only [hbegin, beginEvent, htab] at hnext
            cases hnext
          | none => exact Drops.of_next (.unbound hclosed (Inbound.ofJson_eq_ok.1 hm) htab) hnext
        | saveState state =>
          simp only [hbegin, beginEvent, persist, hclosed, Bool.false_eq_true, if_false] at hnext
          rw [not_isDrop_save hnext] at hdrop
          cases hdrop
        | requestSavedState => rw [hbegin] at hnext; cases hnext

end

/-- A request is handled at once, with a result, and changes nothing. Whatever handlers are under way and whatever the
store has ready for them, they stay as they are, with the coordinator and the store, and one more handler is finished.
Whatever is around the coordinator, nothing is asked of it. -/
structure WithoutEffect [Host] (c : Coordinator) (r : Request) (result : Except Fault Outcome) : Prop where
  setting : ∀ s : Setting, s.scene.coordinator = c →
    s.step (.begin r) = { s with scene := ⟨c, s.scene.handlers ++ [⟨r, [], .finished result⟩]⟩ }
  surroundings : ∀ (σ : Type) (R : σ → Call → Except Fault Answer → σ → Prop) w dialogue c' w' result',
    Carries R (c.begin r) w dialogue c' w' result' ↔ dialogue = [] ∧ c' = c ∧ w' = w ∧ result' = result

theorem withoutEffect_of_begin [Host] {c : Coordinator} {r : Request} {notices : List Notice}
    {result : Except Fault Outcome} (h : c.begin r = ⟨c, notices, .finished result⟩) : WithoutEffect c r result := by
  constructor
  · rintro s rfl
    simp only [Setting.step, Schedule.step, h]
  · intro σ R w dialogue c' w' result'
    rw [h]
    exact carries_finished_iff rfl

/-- A prompt with a member that does not count. -/
def strayPrompt : Json := .obj [
  ("type", .str "prompt"),
  ("tabId", .str "t2"),
  ("messageId", .str "m1"),
  ("prompt", .str "hello"),
  ("more", .null)]

/-- A hidden surface with one tab, a response to which waits to be replayed. -/
def hiddenChat : Coordinator := ⟨⟨"chat", 1⟩, [("t1", "s1")], ⟨false, [.complete "t1" "m0"], false, false⟩, false⟩

section

attribute [local instance] Host.sample

/-- A text holds this prompt. -/
theorem heard_strayPrompt : Heard strayPrompt := by
  have hdistinct : strayPrompt.Distinct := by
    simp [strayPrompt, Json.Distinct, Json.DistinctMembers, Assoc.keys]
  exact .inr (Json.legible_iff.1 ⟨hdistinct, by decide⟩)

/-- A message that no text holds: its type is an integer of 4301 digits. -/
def endlessType : Json := .obj [("type", .int ((10 ^ 4300 : Nat) : Int))]

/-- Under the usual limits its drop cannot be told. -/
theorem endlessType_untold : Untold hiddenChat endlessType (.integerTooLong 4300) :=
  ⟨rfl, _, .unknownType rfl fun _ _ htype => (nomatch Option.some.inj htype), Json.refusal?_pow rfl le_rfl 0⟩

end

end ChatRelay.Coordinator
