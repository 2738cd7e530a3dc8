import ChatRelay.Text.Numeral
import ChatRelay.Yaml.Date

/-!
# Values of a configuration file

- `Yaml.Value`: the values that a document can hold, with dates and with maps whose keys are any values;
- `Yaml.Value.get?`: the value of a text key;
- `Yaml.Value.text` and `Yaml.Value.literal`: a value as a text of its own, and as it is shown inside another;
- `Yaml.Value.refusal?`: the fault of a value that the host turns into no text;
- `Yaml.Value.put`: entries with one added; keys that are equal as numbers or as points in time are one key.
-/

namespace ChatRelay.Yaml

/-- A value. -/
inductive Value
  | null
  | bool (b : Bool)
  | int (n : Int)
  | float (x : Binary64)
  /-- What is no number, as it was read from the text of a node. Each one differs from all others. -/
  | nan (node : Nat)
  | str (s : String)
  /-- A text with numbers in it that are halves of characters. -/
  | codes (ns : List Nat)
  | bytes (bs : List UInt8)
  | date (d : Date)
  | time (t : Time)
  | list (items : List Value)
  | pair (first second : Value)
  | set (members : List Value)
  | map (entries : List (Value × Value))
  /-- A list or a map inside itself. -/
  | loop (isMap : Bool)
deriving Inhabited

namespace Value

/-! ## Values in text -/

mutual

/-- A value as it is shown inside another. -/
def literal : Value → String
  | .null => "None"
  | .bool b => if b then "True" else "False"
  | .int n => String.ofList (Json.writeInt n)
  | .float x => x.literal
  | .nan _ => Binary64.nan.literal
  | .str s => Text.literal s
  | .codes ns => Text.literalOfCodes ns
  | .bytes bs => Text.literalOfBytes bs
  | .date d => d.literal
  | .time t => t.literal
  | .list items => "[" ++ ", ".intercalate (literalItems items) ++ "]"
  | .pair a b => "(" ++ literal a ++ ", " ++ literal b ++ ")"
  | .set members =>
    if members.isEmpty then "set()" else "\x7b" ++ ", ".intercalate (literalItems members) ++ "\x7d"
  | .map entries => "\x7b" ++ ", ".intercalate (literalEntries entries) ++ "\x7d"
  | .loop isMap => if isMap then "\x7b...\x7d" else "[...]"

/-- The items of a list as they are shown. -/
def literalItems : List Value → List String
  | [] => []
  | v :: rest => literal v :: literalItems rest

/-- The entries of a map as they are shown. -/
def literalEntries : List (Value × Value) → List String
  | [] => []
  | (k, v) :: rest => (literal k ++ ": " ++ literal v) :: literalEntries rest

end

section

variable [Host]

mutual

/-- The first fault that is met when a value is turned into text, inside as many collections as given. -/
def refusal? (depth : Nat) : Value → Option Fault
  | .int n => Host.digitFault? (Binary64.digitCount n.natAbs)
  | .list items => (Host.depthFault? (depth + 1)).or (itemsRefusal? (depth + 1) items)
  | .pair a b => (Host.depthFault? (depth + 1)).or ((refusal? (depth + 1) a).or (refusal? (depth + 1) b))
  | .set members => (Host.depthFault? (depth + 1)).or (itemsRefusal? (depth + 1) members)
  | .map entries => (Host.depthFault? (depth + 1)).or (entriesRefusal? (depth + 1) entries)
  | _ => none

/-- The first fault among the items of a list. -/
def itemsRefusal? (depth : Nat) : List Value → Option Fault
  | [] => none
  | v :: rest => (refusal? depth v).or (itemsRefusal? depth rest)

/-- The first fault among the entries of a map. -/
def entriesRefusal? (depth : Nat) : List (Value × Value) → Option Fault
  | [] => none
  | (k, v) :: rest => ((refusal? depth k).or (refusal? depth v)).or (entriesRefusal? depth rest)

end

end

/-- A value as a text of its own, unless it is a text with halves of characters in it. -/
def text : Value → String
  | .str s => s
  | .date d => d.text
  | .time t => t.text
  | v => v.literal

/-- Whether a value counts as given: null, false, zero and everything empty do not. -/
def truthy : Value → Bool
  | .null => false
  | .bool b => b
  | .int n => n != 0
  | .float x => !x.isZero
  | .str s => !s.isEmpty
  | .codes ns => !ns.isEmpty
  | .bytes bs => !bs.isEmpty
  | .list items => !items.isEmpty
  | .set members => !members.isEmpty
  | .map entries => !entries.isEmpty
  | .nan _ | .date _ | .time _ | .pair _ _ | .loop _ => true

/-! ## Maps -/

/-- The integer that a value equals as a number. -/
def asInt? : Value → Option Int
  | .bool b => some (if b then 1 else 0)
  | .int n => some n
  | .float x => x.toInt?
  | _ => none

/-- Whether two keys are one. -/
def sameKey (a b : Value) : Bool :=
  match a, b with
  | .null, .null => true
  | .nan m, .nan n => m == n
  | .str s, .str t => s == t
  | .codes s, .codes t => s == t
  | .bytes s, .bytes t => s == t
  | .date d, .date e => d == e
  | .time t, .time u => t.same u
  | .float x, .float y => x == y || (x.isZero && y.isZero)
  | a, b =>
    match a.asInt?, b.asInt? with
    | some m, some n => m == n
    | _, _ => false

/-- The entries of a map with an entry added, in its old place when its key is there already. -/
def put {α : Type} (key : Value) (value : α) : List (Value × α) → List (Value × α)
  | [] => [(key, value)]
  | (k, v) :: rest => if sameKey k key then (k, value) :: rest else (k, v) :: put key value rest

/-- The value of a text key among entries. -/
def find? {α : Type} (key : String) : List (Value × α) → Option α
  | [] => none
  | (k, v) :: rest => if sameKey k (.str key) then some v else find? key rest

/-- The value of a text key. -/
def get? (key : String) : Value → Option Value
  | .map entries => find? key entries
  | _ => none

/-! ## From JSON -/

mutual

/-- The value that a JSON value is. -/
def ofJson : Json → Value
  | .null => .null
  | .bool b => .bool b
  | .int n => .int n
  | .float x => .float x
  | .str s => .str s
  | .arr items => .list (ofItems items)
  | .obj members => .map (ofMembers members)

/-- The items of an array as values. -/
def ofItems : List Json → List Value
  | [] => []
  | v :: rest => ofJson v :: ofItems rest

/-- The members of an object as entries. -/
def ofMembers : List (String × Json) → List (Value × Value)
  | [] => []
  | (k, v) :: rest => (.str k, ofJson v) :: ofMembers rest

end

end Value

end ChatRelay.Yaml
