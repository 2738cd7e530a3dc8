import ChatRelay.Json.Basic
import ChatRelay.Proofs.Binary64.Decimals

/-!
# Values within the limits of the host

- `Part`: what lies in a value, inside how many arrays and objects;
- `Within`: no part of a value goes beyond a limit;
- `within_iff`: these are the values that become text;
- `exists_part`, `limit_of_refusal?`: any other value is refused for a part that goes beyond a limit;
- `within_of_boundless`: every value is within the limits of a host without limits.
-/

namespace ChatRelay.Json

/-- What lies in a value inside a number of arrays and objects, the value itself inside none. -/
inductive Part : Json → Nat → Json → Prop
  | self (v : Json) : Part v 0 v
  | item {items : List Json} {v w : Json} {k : Nat} : v ∈ items → Part v k w → Part (.arr items) (k + 1) w
  | member {members : List (String × Json)} {m : String × Json} {w : Json} {k : Nat} : m ∈ members → Part m.2 k w →
      Part (.obj members) (k + 1) w

variable [Host]

/-- The fault of a value inside as many arrays and objects as given, whatever lies in it. -/
def fault? (depth : Nat) : Json → Option Fault
  | .int n => Host.digitFault? (Binary64.digitCount n.natAbs)
  | .arr _ | .obj _ => Host.depthFault? (depth + 1)
  | _ => none

/-- No part of a value goes beyond a limit. -/
def Within (v : Json) : Prop := ∀ k w, Part v k w → w.fault? k = none

/-- What is no fault inside many arrays and objects is none inside fewer. -/
theorem fault?_mono {v : Json} {k depth : Nat} (hle : k ≤ depth) (h : v.fault? depth = none) : v.fault? k = none := by
  cases v with
  | int n => exact h
  | arr items => exact Host.depthFault?_mono (Nat.succ_le_succ hle) h
  | obj members => exact Host.depthFault?_mono (Nat.succ_le_succ hle) h
  | _ => rfl

/-- The member of an object within the limits is within them. -/
theorem Within.of_get? {v w : Json} {key : String} (h : v.Within) (hw : v.get? key = some w) : w.Within := by
  intro k part hpart
  cases v with
  | obj members => exact fault?_mono (Nat.le_succ k) (h _ _ (.member (Assoc.mem_of_get? hw) hpart))
  | _ => cases hw

/-- A power of ten with more digits than the limit is refused. -/
theorem refusal?_pow {limit k : Nat} (hlimit : limit ∈ Host.digitLimit) (hle : limit ≤ k) (depth : Nat) :
    (int ((10 ^ k : Nat) : Int)).refusal? depth = some (.integerTooLong limit) := by
  have hroom : 640 ≤ limit := Host.digit_room limit hlimit
  have hcount : k < Binary64.digitCount (10 ^ k) := Binary64.lt_digitCount_pow (by omega)
  rw [refusal?, Int.natAbs_natCast, Host.digitFault?_of_lt hlimit (hle.trans_lt hcount)]

/-- No part of a value that becomes text is a fault. -/
theorem fault?_of_part {v w : Json} {k : Nat} (hpart : Part v k w) {depth : Nat} (h : v.refusal? depth = none) :
    w.fault? (depth + k) = none := by
  induction hpart generalizing depth with
  | self v =>
    cases v with
    | int n => exact h
    | arr items => exact (refusal?_arr_eq_none_iff.1 h).1
    | obj members => exact (refusal?_obj_eq_none_iff.1 h).1
    | _ => rfl
  | item hv _ ih =>
    rw [Nat.add_comm _ 1, ← Nat.add_assoc]
    exact ih ((refusal?_arr_eq_none_iff.1 h).2 _ hv)
  | member hm _ ih =>
    rw [Nat.add_comm _ 1, ← Nat.add_assoc]
    exact ih ((refusal?_obj_eq_none_iff.1 h).2 _ hm)

mutual

/-- A value that is refused is refused for one of its parts. -/
theorem exists_part : ∀ (v : Json) {depth : Nat} {f : Fault}, v.refusal? depth = some f →
    ∃ k w, Part v k w ∧ w.fault? (depth + k) = some f
  | .null, _, _, h => nomatch h
  | .bool _, _, _, h => nomatch h
  | .int n, _, _, h => ⟨0, .int n, .self _, h⟩
  | .float _, _, _, h => nomatch h
  | .str _, _, _, h => nomatch h
  | .arr items, depth, f, h => by
    rcases Option.or_eq_some_iff.1 h with hdepth | ⟨-, hitems⟩
    · exact ⟨0, .arr items, .self _, hdepth⟩
    · obtain ⟨v, hv, k, w, hpart, hfault⟩ := exists_itemsPart items hitems
      exact ⟨k + 1, w, .item hv hpart, by rwa [Nat.add_comm k 1, ← Nat.add_assoc]⟩
  | .obj members, depth, f, h => by
    rcases Option.or_eq_some_iff.1 h with hdepth | ⟨-, hmembers⟩
    · exact ⟨0, .obj members, .self _, hdepth⟩
    · obtain ⟨m, hm, k, w, hpart, hfault⟩ := exists_membersPart members hmembers
      exact ⟨k + 1, w, .member hm hpart, by rwa [Nat.add_comm k 1, ← Nat.add_assoc]⟩

theorem exists_itemsPart : ∀ (items : List Json) {depth : Nat} {f : Fault}, itemsRefusal? depth items = some f →
    ∃ v ∈ items, ∃ k w, Part v k w ∧ w.fault? (depth + k) = some f
  | [], _, _, h => nomatch h
  | v :: items, depth, f, h => by
    rcases Option.or_eq_some_iff.1 h with hv | ⟨-, hitems⟩
    · exact ⟨v, List.mem_cons_self, exists_part v hv⟩
    · obtain ⟨w, hw, hpart⟩ := exists_itemsPart items hitems
      exact ⟨w, List.mem_cons_of_mem _ hw, hpart⟩

theorem exists_membersPart : ∀ (members : List (String × Json)) {depth : Nat} {f : Fault},
    membersRefusal? depth members = some f → ∃ m ∈ members, ∃ k w, Part m.2 k w ∧ w.fault? (depth + k) = some f
  | [], _, _, h => nomatch h
  | (key, v) :: members, depth, f, h => by
    rcases Option.or_eq_some_iff.1 h with hv | ⟨-, hmembers⟩
    · exact ⟨(key, v), List.mem_cons_self, exists_part v hv⟩
    · obtain ⟨m, hm, hpart⟩ := exists_membersPart members hmembers
      exact ⟨m, List.mem_cons_of_mem _ hm, hpart⟩

end

/-- The values within the limits are those that become text. -/
theorem within_iff {v : Json} : v.Within ↔ v.refusal? 0 = none := by
  refine ⟨fun h => ?_, fun h k w hpart => by simpa using fault?_of_part hpart h⟩
  cases hrefused : v.refusal? 0 with
  | none => rfl
  | some f =>
    obtain ⟨k, w, hpart, hfault⟩ := exists_part v hrefused
    rw [Nat.zero_add, h k w hpart] at hfault
    cases hfault

/-- A value is refused for its depth or for the digits of an integer. -/
theorem limit_of_refusal? {v : Json} {depth : Nat} {f : Fault} (h : v.refusal? depth = some f) :
    f = .tooDeep ∨ ∃ limit ∈ Host.digitLimit, f = .integerTooLong limit := by
  obtain ⟨k, w, -, hfault⟩ := exists_part v h
  cases w with
  | int n => exact .inr (Host.limit_of_digitFault? hfault)
  | arr items => exact .inl (Host.eq_of_depthFault? hfault)
  | obj members => exact .inl (Host.eq_of_depthFault? hfault)
  | _ => cases hfault

/-- Without limits every value becomes text. -/
theorem within_of_boundless (h : Host.Boundless) (v : Json) : v.Within := by
  intro k w _
  cases w with
  | int n => exact h.digitFault? _
  | arr items => exact h.depthFault? _
  | obj members => exact h.depthFault? _
  | _ => rfl

end ChatRelay.Json
