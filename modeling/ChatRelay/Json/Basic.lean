import ChatRelay.Assoc
import ChatRelay.Binary64.Basic
import ChatRelay.Host

/-!
# JSON values

- `Json`: null, booleans, integers of any size, 64-bit floats, strings, arrays and objects. An integer and the float
  of the same value are different, and an object keeps the order of its members;
- `Json.get?`: the member of an object;
- `Json.truthy`, `Json.kind`: which values count as given, and the word for the kind of a value;
- `Json.refusal?`: the fault of a value that the host turns into no text, since an integer in it is too long or a part
  of it too deep;
- `Json.sortKeys`: the value with the members of every object in the order of their keys.
-/

namespace ChatRelay

/-- A JSON value. -/
inductive Json
  | null
  | bool (b : Bool)
  | int (n : Int)
  | float (x : Binary64)
  | str (s : String)
  | arr (items : List Json)
  | obj (members : List (String × Json))
deriving Inhabited

namespace Json

/-- The value of a key in an object. -/
def get? (key : String) : Json → Option Json
  | .obj members => Assoc.get? key members
  | _ => none

/-- The value of a key in an object, null when there is none. -/
def getD (key : String) (v : Json) : Json := (v.get? key).getD .null

/-- The string that a value is. -/
def str? : Json → Option String
  | .str s => some s
  | _ => none

/-- Whether a value is null. -/
def isNull : Json → Bool
  | .null => true
  | _ => false

/-- Whether a value counts as given: null, false, zero and everything empty do not. -/
def truthy : Json → Bool
  | .null => false
  | .bool b => b
  | .int n => n != 0
  | .float x => !x.isZero
  | .str s => !s.isEmpty
  | .arr items => !items.isEmpty
  | .obj members => !members.isEmpty

/-- The word for the kind of a value. -/
def kind : Json → String
  | .null => "NoneType"
  | .bool _ => "bool"
  | .int _ => "int"
  | .float _ => "float"
  | .str _ => "str"
  | .arr _ => "list"
  | .obj _ => "dict"

section

variable [Host]

mutual

/-- The first fault that is met when a value is turned into text, inside as many arrays and objects as given. -/
def refusal? (depth : Nat) : Json → Option Fault
  | .int n => Host.digitFault? (Binary64.digitCount n.natAbs)
  | .arr items => (Host.depthFault? (depth + 1)).or (itemsRefusal? (depth + 1) items)
  | .obj members => (Host.depthFault? (depth + 1)).or (membersRefusal? (depth + 1) members)
  | _ => none

/-- The first fault among the items of an array. -/
def itemsRefusal? (depth : Nat) : List Json → Option Fault
  | [] => none
  | v :: rest => (refusal? depth v).or (itemsRefusal? depth rest)

/-- The first fault among the members of an object. -/
def membersRefusal? (depth : Nat) : List (String × Json) → Option Fault
  | [] => none
  | (_, v) :: rest => (refusal? depth v).or (membersRefusal? depth rest)

end

theorem itemsRefusal?_eq_none_iff {depth : Nat} {items : List Json} :
    itemsRefusal? depth items = none ↔ ∀ v ∈ items, v.refusal? depth = none := by
  induction items with
  | nil => simp [itemsRefusal?]
  | cons v items ih => simp [itemsRefusal?, ih]

theorem membersRefusal?_eq_none_iff {depth : Nat} {members : List (String × Json)} :
    membersRefusal? depth members = none ↔ ∀ m ∈ members, m.2.refusal? depth = none := by
  induction members with
  | nil => simp [membersRefusal?]
  | cons m members ih => simp [membersRefusal?, ih]

/-- An array is no fault when it lies within the limit and no item is a fault. -/
theorem refusal?_arr_eq_none_iff {depth : Nat} {items : List Json} :
    (arr items).refusal? depth = none ↔
      Host.depthFault? (depth + 1) = none ∧ ∀ v ∈ items, v.refusal? (depth + 1) = none := by
  simp [refusal?, itemsRefusal?_eq_none_iff]

/-- An object is no fault when it lies within the limit and the value of no member is a fault. -/
theorem refusal?_obj_eq_none_iff {depth : Nat} {members : List (String × Json)} :
    (obj members).refusal? depth = none ↔
      Host.depthFault? (depth + 1) = none ∧ ∀ m ∈ members, m.2.refusal? (depth + 1) = none := by
  simp [refusal?, membersRefusal?_eq_none_iff]

end

/-- Whether one key comes after another or is equal to it, by code points. -/
def keyLe (a b : String × Json) : Bool := decide (¬ b.1 < a.1)

mutual

/-- The value with the members of every object, at every depth, in the order of their keys. -/
def sortKeys : Json → Json
  | .arr items => .arr (sortItems items)
  | .obj members => .obj ((sortMembers members).mergeSort keyLe)
  | v => v

/-- The values of an array with their keys sorted. -/
def sortItems : List Json → List Json
  | [] => []
  | v :: rest => sortKeys v :: sortItems rest

/-- The members of an object with the keys of their values sorted. -/
def sortMembers : List (String × Json) → List (String × Json)
  | [] => []
  | (k, v) :: rest => (k, sortKeys v) :: sortMembers rest

end

end Json

end ChatRelay
