import ChatRelay.Event.Inbound
import ChatRelay.Proofs.Json.Limits

/-!
# What messages say

- `Inbound.Says`: the messages that make a request, by the members that they need (`Inbound.ofJson_eq_ok`);
- `Inbound.Refused`: why any other message is refused (`Inbound.ofJson_eq_error`), with the first string that is
  missing;
- `Inbound.refused_iff`: a message is refused exactly when it makes no request;
- `Inbound.text_of_refused`: the reason can be told of every message within the limits of the host.
-/

namespace ChatRelay.Inbound

/-! ## Requests -/

/-- A message makes a request: it is an object whose type names the request, with the strings that the request needs.
Whatever other members it has, they do not count, and a state that is missing is null. -/
inductive Says (m : Json) : Inbound → Prop
  | newTab {tab : String} : m.get? "type" = some (.str "new-tab") → m.get? "tabId" = some (.str tab) →
      Says m (.newTab tab)
  | prompt {tab message text : String} : m.get? "type" = some (.str "prompt") → m.get? "tabId" = some (.str tab) →
      m.get? "messageId" = some (.str message) → m.get? "prompt" = some (.str text) → Says m (.prompt tab message text)
  | saveState {state : Json} : m.get? "type" = some (.str "save-state") → m.get? "state" = some state →
      Says m (.saveState state)
  | saveNothing : m.get? "type" = some (.str "save-state") → m.get? "state" = none → Says m (.saveState .null)
  | requestSavedState : m.get? "type" = some (.str "request-saved-state") → Says m .requestSavedState

/-! ## Refusals -/

/-- The types of the messages that make requests, with the strings that they need. -/
def forms : List (String × List String) := [
  ("new-tab", ["tabId"]),
  ("prompt", ["tabId", "messageId", "prompt"]),
  ("save-state", []),
  ("request-saved-state", [])]

/-- Whether a message has no string in a field. -/
def lacks (m : Json) (field : String) : Bool :=
  match m.get? field with
  | some (.str _) => false
  | _ => true

/-- Why a message is refused: it is no object, its type is none of a request, or a string is missing that a request of
its type needs. Of several the first one is told. -/
inductive Refused (m : Json) : Refusal → Prop
  | notObject : (∀ members, m ≠ .obj members) → Refused m (.notObject m)
  | unknownType {members : List (String × Json)} : m = .obj members →
      (∀ form ∈ forms, m.get? "type" ≠ some (.str form.1)) → Refused m (.unknownType (m.getD "type"))
  | missingText {type field : String} {fields : List String} : m.get? "type" = some (.str type) →
      (type, fields) ∈ forms → fields.find? (lacks m) = some field → Refused m (.missingText type field)

section

variable {m : Json} {e : Inbound} {r : Refusal} {type field s : String}

theorem lacks_eq_false : lacks m field = false ↔ ∃ s, m.get? field = some (.str s) := by
  unfold lacks
  split <;> simp_all

theorem requireText_eq_ok : requireText type field m = .ok s ↔ m.get? field = some (.str s) := by
  unfold requireText
  split <;> simp_all

theorem requireText_eq_error :
    requireText type field m = .error r ↔ lacks m field = true ∧ r = .missingText type field := by
  unfold requireText lacks
  split <;> simp_all [eq_comm]

/-- What needs a string goes on with the string that is there. -/
theorem requireText_bind_eq_ok {f : String → Except Refusal Inbound} :
    (requireText type field m).bind f = .ok e ↔ ∃ s, m.get? field = some (.str s) ∧ f s = .ok e := by
  cases htext : requireText type field m with
  | ok s =>
    rw [requireText_eq_ok] at htext
    simp [htext, Except.bind]
  | error r =>
    rw [requireText_eq_error, lacks] at htext
    split at htext <;> simp_all [Except.bind]

theorem getD_eq_str {key : String} : m.getD key = .str s ↔ m.get? key = some (.str s) := by
  rw [Json.getD]
  cases m.get? key <;> simp

/-- A member is one of an object. -/
theorem exists_members {key : String} {v : Json} (h : m.get? key = some v) : ∃ members, m = .obj members := by
  cases m with
  | obj members => exact ⟨members, rfl⟩
  | _ => cases h

/-! ### Messages of each type -/

theorem ofJson_newTab (h : m.get? "type" = some (.str "new-tab")) :
    ofJson m = (requireText "new-tab" "tabId" m).bind fun tab => .ok (.newTab tab) := by
  obtain ⟨members, rfl⟩ := exists_members h
  simp only [ofJson, getD_eq_str.2 h]
  rfl

theorem ofJson_prompt (h : m.get? "type" = some (.str "prompt")) :
    ofJson m = (requireText "prompt" "tabId" m).bind fun tab =>
      (requireText "prompt" "messageId" m).bind fun message =>
        (requireText "prompt" "prompt" m).bind fun text => .ok (.prompt tab message text) := by
  obtain ⟨members, rfl⟩ := exists_members h
  simp only [ofJson, getD_eq_str.2 h]
  rfl

theorem ofJson_saveState (h : m.get? "type" = some (.str "save-state")) :
    ofJson m = .ok (.saveState (m.getD "state")) := by
  obtain ⟨members, rfl⟩ := exists_members h
  simp only [ofJson, getD_eq_str.2 h]

theorem ofJson_requestSavedState (h : m.get? "type" = some (.str "request-saved-state")) :
    ofJson m = .ok .requestSavedState := by
  obtain ⟨members, rfl⟩ := exists_members h
  simp only [ofJson, getD_eq_str.2 h]

theorem ofJson_unknown {members : List (String × Json)} (hm : m = .obj members)
    (h : ∀ form ∈ forms, m.get? "type" ≠ some (.str form.1)) : ofJson m = .error (.unknownType (m.getD "type")) := by
  subst hm
  simp only [forms, List.forall_mem_cons] at h
  obtain ⟨hnew, hprompt, hsave, hask, -⟩ := h
  simp only [ofJson]
  split
  · next htype => exact absurd (getD_eq_str.1 htype) hnew
  · next htype => exact absurd (getD_eq_str.1 htype) hprompt
  · next htype => exact absurd (getD_eq_str.1 htype) hsave
  · next htype => exact absurd (getD_eq_str.1 htype) hask
  · rfl

theorem ofJson_notObject (h : ∀ members, m ≠ .obj members) : ofJson m = .error (.notObject m) := by
  cases m with
  | obj members => exact absurd rfl (h members)
  | _ => rfl

/-- A message is no object, or of an unknown type, or of one of the types of requests. -/
theorem message_cases (m : Json) : (∀ members, m ≠ .obj members) ∨
    (∃ members, m = .obj members ∧ ∀ form ∈ forms, m.get? "type" ≠ some (.str form.1)) ∨
    ∃ form ∈ forms, m.get? "type" = some (.str form.1) := by
  by_cases hobject : ∃ members, m = .obj members
  · refine .inr ?_
    obtain ⟨members, hm⟩ := hobject
    by_cases hknown : ∃ form ∈ forms, m.get? "type" = some (.str form.1)
    · exact .inr hknown
    · exact .inl ⟨members, hm, fun form hform htype => hknown ⟨form, hform, htype⟩⟩
  · exact .inl (not_exists.1 hobject)

/-! ### All messages -/

/-- The messages that make a request are those that say one. -/
theorem ofJson_eq_ok : ofJson m = .ok e ↔ Says m e := by
  constructor
  · intro h
    rcases message_cases m with hobject | ⟨members, hm, hknown⟩ | ⟨form, hform, htype⟩
    · rw [ofJson_notObject hobject] at h
      cases h
    · rw [ofJson_unknown hm hknown] at h
      cases h
    · simp only [forms, List.mem_cons, List.not_mem_nil, or_false] at hform
      rcases hform with rfl | rfl | rfl | rfl
      · rw [ofJson_newTab htype] at h
        obtain ⟨tab, htab, h⟩ := requireText_bind_eq_ok.1 h
        obtain rfl := Except.ok.inj h
        exact .newTab htype htab
      · rw [ofJson_prompt htype] at h
        obtain ⟨tab, htab, h⟩ := requireText_bind_eq_ok.1 h
        obtain ⟨message, hmessage, h⟩ := requireText_bind_eq_ok.1 h
        obtain ⟨text, htext, h⟩ := requireText_bind_eq_ok.1 h
        obtain rfl := Except.ok.inj h
        exact .prompt htype htab hmessage htext
      · rw [ofJson_saveState htype] at h
        obtain rfl := Except.ok.inj h
        rw [Json.getD]
        cases hstate : m.get? "state" with
        | none => exact .saveNothing htype hstate
        | some state => exact .saveState htype hstate
      · rw [ofJson_requestSavedState htype] at h
        obtain rfl := Except.ok.inj h
        exact .requestSavedState htype
  · intro h
    cases h with
    | newTab htype htab => rw [ofJson_newTab htype, requireText_eq_ok.2 htab]; rfl
    | prompt htype htab hmessage htext =>
      rw [ofJson_prompt htype, requireText_eq_ok.2 htab, requireText_eq_ok.2 hmessage, requireText_eq_ok.2 htext]
      rfl
    | saveState htype hstate => rw [ofJson_saveState htype, Json.getD, hstate, Option.getD_some]
    | saveNothing htype hstate => rw [ofJson_saveState htype, Json.getD, hstate, Option.getD_none]
    | requestSavedState htype => exact ofJson_requestSavedState htype

/-- A message of the type of a request is refused exactly if a string is missing, and the first one is told. -/
theorem ofJson_missing {fields : List String} (hform : (type, fields) ∈ forms)
    (htype : m.get? "type" = some (.str type)) :
    ofJson m = .error r ↔ ∃ field, fields.find? (lacks m) = some field ∧ r = .missingText type field := by
  have hgiven : ∀ type {field}, lacks m field = false → ∃ s, requireText type field m = .ok s := fun _ _ h =>
    (lacks_eq_false.1 h).imp fun _ => requireText_eq_ok.2
  have hlost : ∀ {type field}, lacks m field = true → requireText type field m = .error (.missingText type field) :=
    fun h => requireText_eq_error.2 ⟨h, rfl⟩
  simp only [forms, List.mem_cons, Prod.mk.injEq, List.not_mem_nil, or_false] at hform
  rcases hform with ⟨rfl, rfl⟩ | ⟨rfl, rfl⟩ | ⟨rfl, rfl⟩ | ⟨rfl, rfl⟩
  · rw [ofJson_newTab htype]
    cases htab : lacks m "tabId" with
    | true => simp [hlost htab, htab, Except.bind, eq_comm]
    | false =>
      obtain ⟨tab, hok⟩ := hgiven "new-tab" htab
      simp [hok, htab, Except.bind]
  · rw [ofJson_prompt htype]
    cases htab : lacks m "tabId" with
    | true => simp [hlost htab, htab, Except.bind, eq_comm]
    | false =>
      obtain ⟨tab, hok⟩ := hgiven "prompt" htab
      cases hmessage : lacks m "messageId" with
      | true => simp [hok, hlost hmessage, htab, hmessage, Except.bind, eq_comm]
      | false =>
        obtain ⟨message, hok'⟩ := hgiven "prompt" hmessage
        cases htext : lacks m "prompt" with
        | true => simp [hok, hok', hlost htext, htab, hmessage, htext, Except.bind, eq_comm]
        | false =>
          obtain ⟨text, hok''⟩ := hgiven "prompt" htext
          simp [hok, hok', hok'', htab, hmessage, htext, Except.bind]
  · simp [ofJson_saveState htype]
  · simp [ofJson_requestSavedState htype]

/-- A message is refused for what is wrong with it. -/
theorem ofJson_eq_error : ofJson m = .error r ↔ Refused m r := by
  constructor
  · intro h
    rcases message_cases m with hobject | ⟨members, hm, hknown⟩ | ⟨form, hform, htype⟩
    · rw [ofJson_notObject hobject] at h
      obtain rfl := Except.error.inj h
      exact .notObject hobject
    · rw [ofJson_unknown hm hknown] at h
      obtain rfl := Except.error.inj h
      exact .unknownType hm hknown
    · obtain ⟨field, hfield, rfl⟩ := (ofJson_missing hform htype).1 h
      exact .missingText htype hform hfield
  · intro h
    cases h with
    | notObject hobject => exact ofJson_notObject hobject
    | unknownType hm hknown => exact ofJson_unknown hm hknown
    | missingText htype hform hfield => exact (ofJson_missing hform htype).2 ⟨_, hfield, rfl⟩

/-- A message is refused exactly when it makes no request. -/
theorem refused_iff : (∃ r, Refused m r) ↔ ∀ e, ¬Says m e := by
  simp only [← ofJson_eq_error, ← ofJson_eq_ok]
  cases ofJson m <;> simp

/-! ### Reasons -/

variable [Host]

/-- The reason is told unless it shows a type that the host turns into no text. -/
theorem text_eq_error {f : Fault} : r.text = .error f ↔ ∃ type, r = .unknownType type ∧ type.refusal? 0 = some f := by
  cases r with
  | notObject m => simp [Refusal.text]
  | missingText type field => simp [Refusal.text]
  | unknownType type => cases h : type.refusal? 0 <;> simp [Refusal.text, Json.shown, Except.map, h]

/-- The reason can be told of every message within the limits. -/
theorem text_of_refused (hm : m.Within) (h : Refused m r) : ∃ reason, r.text = .ok reason := by
  rcases htext : r.text with f | reason
  · obtain ⟨type, rfl, hfault⟩ := text_eq_error.1 htext
    cases h with
    | unknownType =>
      rw [Json.getD] at hfault
      cases htype : m.get? "type" with
      | none =>
        rw [htype] at hfault
        cases hfault
      | some type =>
        rw [htype, Option.getD_some, Json.within_iff.1 (hm.of_get? htype)] at hfault
        cases hfault
  · exact ⟨reason, rfl⟩

end

end ChatRelay.Inbound
