import ChatRelay.Json.Printer

/-!
# JSON values as literals

- `Json.literal`: a value as it is shown inside a message, with quoted strings, the names `None`, `True` and `False`,
  and a space after every comma and colon;
- `Json.shown`: the same if the host turns the value into text, else the fault that is met first.
-/

namespace ChatRelay

/-- How the numbers that are not finite are shown in messages. -/
def Binary64.literalSpelling : Binary64.Spelling := ⟨"nan", "inf"⟩

/-- A number as it is shown in messages. -/
def Binary64.literal (x : Binary64) : String := String.ofList (x.render literalSpelling)

namespace Json

mutual

/-- A value as it is shown in messages. -/
def literal : Json → String
  | .null => "None"
  | .bool b => if b then "True" else "False"
  | .int n => String.ofList (writeInt n)
  | .float x => x.literal
  | .str s => Text.literal s
  | .arr items => "[" ++ ", ".intercalate (literalItems items) ++ "]"
  | .obj members => "\x7b" ++ ", ".intercalate (literalMembers members) ++ "\x7d"

/-- The items of an array as they are shown in messages. -/
def literalItems : List Json → List String
  | [] => []
  | v :: rest => literal v :: literalItems rest

/-- The members of an object as they are shown in messages. -/
def literalMembers : List (String × Json) → List String
  | [] => []
  | (k, v) :: rest => (Text.literal k ++ ": " ++ literal v) :: literalMembers rest

end

/-- What a value is shown as in a message. -/
def shown [Host] (v : Json) : Except Fault String :=
  match v.refusal? 0 with
  | some f => .error f
  | none => .ok v.literal

end Json

end ChatRelay
