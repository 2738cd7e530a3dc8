import ChatRelay.Assoc

/-!
# Tags

- `Yaml.Tag`: what a part of a document is meant to be;
- `Tag.ofName`: the tag of a name in full.
-/

namespace ChatRelay.Yaml

/-- What a part of a document is meant to be. -/
inductive Tag
  | null
  | bool
  | int
  | float
  | binary
  | timestamp
  | str
  | seq
  | map
  | set
  /-- A sequence of mappings with one entry each. -/
  | pairs
  /-- A key whose mappings are put in front of the entries around it. -/
  | merge
  /-- A key whose value stands for the mapping when a text is wanted. -/
  | default
  /-- Nothing that is known. -/
  | other
deriving DecidableEq

namespace Tag

/-- The names that every document knows. -/
def names : List (String × Tag) :=
  [("null", .null), ("bool", .bool), ("int", .int), ("float", .float), ("binary", .binary),
    ("timestamp", .timestamp), ("str", .str), ("seq", .seq), ("map", .map), ("set", .set), ("omap", .pairs),
    ("pairs", .pairs), ("merge", .merge), ("value", .default)]

/-- The tag of a name in full. -/
def ofName (name : String) : Tag :=
  ((names.find? fun e => name = "tag:yaml.org,2002:" ++ e.1).map (·.2)).getD .other

/-- Whether a tag means a collection. -/
def isCollection : Tag → Bool
  | .seq | .map | .set | .pairs => true
  | _ => false

/-- Whether a tag means a value with a text. -/
def isScalar : Tag → Bool
  | .null | .bool | .int | .float | .binary | .timestamp | .str => true
  | _ => false

end Tag

end ChatRelay.Yaml
