import ChatRelay.Yaml.Node
import ChatRelay.Yaml.Tagged

/-!
# The value of a document

- `Document.ofGraph`: what every node of a document comes to, found from the outermost node inward, all parts of a
  collection before the parts of those;
- `Document.value`: the value of a node. A collection inside itself ends there;
- `Document.setting?`: the value of an entry in a section of the outermost map.

A mapping under the merge key is put in front of the entries that it is merged into, so that these win. It is merged
once, where it stands, so a mapping may be merged into itself.
-/

namespace ChatRelay.Yaml

variable [Host]

namespace Graph

/-! ## Merging -/

/-- The entries of a node that is a mapping. -/
def entries (g : Graph) (n : Nat) : List (Nat × Nat) :=
  match g.get n with
  | .mapping _ es => es
  | _ => []

/-- The graph with other entries in a mapping. -/
def setEntries (g : Graph) (n : Nat) (es : List (Nat × Nat)) : Graph := g.set n (.mapping (g.get n).tag es)

/-- Whether a node is a mapping. -/
def isMapping (g : Graph) (n : Nat) : Bool :=
  match g.get n with
  | .mapping .. => true
  | _ => false

/-- Whether the key of an entry has a tag. -/
def hasKeyTag (g : Graph) (t : Tag) (e : Nat × Nat) : Bool := (g.get e.1).tag = t

/-- The keys for a default value as texts. -/
def nameDefaults (g : Graph) (es : List (Nat × Nat)) : Graph :=
  es.foldl (fun g e => if g.hasKeyTag .default e then g.set e.1 ((g.get e.1).withTag .str) else g) g

/-- Merges into a mapping what its merge keys name, after the entries merged so far. A mapping that is merged is merged
into first, one level deeper. The fuel bounds the number of merge keys, of which each is merged once. -/
def merge : Nat → Nat → List (Nat × Nat) → Nat → Graph → Except Fault Graph
  | 0, _, _, _, _ => .error .badValue
  | fuel + 1, depth, merged, n, g =>
    if (Host.depthFault? depth).isSome then .error .tooDeep
    else match (g.entries n).find? (g.hasKeyTag .merge) with
    | none => .ok ((g.nameDefaults (g.entries n)).setEntries n (merged ++ g.entries n))
    | some (_, v) => do
      let g := g.setEntries n ((g.entries n).eraseP (g.hasKeyTag .merge))
      match g.get v with
      | .mapping .. =>
        let g ← merge fuel (depth + 1) [] v g
        merge fuel depth (merged ++ g.entries v) n g
      | .sequence _ items =>
        if items.all g.isMapping then do
          let (g, found) ← items.foldlM (fun (g, found) item => do
            let g ← merge fuel (depth + 1) [] item g
            return (g, g.entries item ++ found)) (g, [])
          merge fuel depth (merged ++ found) n g
        else .error .badValue
      | .scalar .. => .error .badValue

/-- How many merge keys there are. -/
def mergeCount (g : Graph) : Nat :=
  g.nodes.toList.foldl (fun count node => match node with
    | .mapping _ es => count + es.countP (g.hasKeyTag .merge)
    | _ => count) 0

/-- The graph after everything was merged into a mapping. -/
def merged (g : Graph) (n : Nat) : Except Fault Graph :=
  if g.isMapping n then g.merge (g.mergeCount + 2) 0 [] n else .error .badValue

/-! ## Texts -/

/-- The text of a node, from the given depth on. That of a mapping is its default value, one level deeper. The fuel
bounds the number of nodes, so without any left a default value lies in itself. -/
def codes : Nat → Nat → Graph → Nat → Except Fault (List Nat)
  | 0, _, _, _ => .error .tooDeep
  | fuel + 1, depth, g, n =>
    if (Host.depthFault? depth).isSome then .error .tooDeep
    else match g.get n with
    | .scalar _ codes => .ok codes
    | .mapping _ es =>
      match es.find? (g.hasKeyTag .default) with
      | some e => codes fuel (depth + 1) g e.2
      | none => .error .badValue
    | .sequence .. => .error .badValue

end Graph

/-- What a node comes to, with the parts of a collection by their numbers. -/
inductive Content
  | leaf (v : Value)
  | list (items : List Nat)
  | pairs (items : List (Nat × Nat))
  | set (members : List Value)
  | map (entries : List (Value × Nat))

/-- What the nodes of a document come to. -/
structure Document where
  contents : Array (Option Content)
  root : Nat

namespace Document

/-! ## Filling -/

/-- A document whose collections are partly filled. -/
structure Draft where
  graph : Graph
  contents : Array (Option Content)
  /-- The collections that are still empty, in the order in which they are filled. -/
  queue : List Nat

namespace Draft

/-- What a node comes to, if it was found. -/
def get? (d : Draft) (n : Nat) : Option Content := (d.contents[n]?).join

/-- The draft with what a node comes to. -/
def put (d : Draft) (n : Nat) (c : Content) : Draft := { d with contents := d.contents.setIfInBounds n (some c) }

/-- What a collection comes to before it is filled. -/
def unfilled : Tag → Content
  | .map => .map []
  | .set => .set []
  | .pairs => .pairs []
  | _ => .list []

/-- Finds what a node comes to. Collections are left for later. -/
def visit (d : Draft) (n : Nat) : Except Fault Draft :=
  let tag := (d.graph.get n).tag
  if (d.get? n).isSome then .ok d
  else if tag.isCollection then .ok { d.put n (unfilled tag) with queue := d.queue ++ [n] }
  else if !tag.isScalar || tag = .timestamp && d.graph.isMapping n then .error .badValue
  else do
    let codes ← d.graph.codes (d.contents.size + 1) 0 n
    return d.put n (.leaf (← Tagged.value n tag codes))

/-- The value of a node as a key. -/
def key (d : Draft) (n : Nat) : Except Fault Value :=
  match d.get? n with
  | some (.leaf v) => .ok v
  | _ => .error .badValue

/-- The entries of a mapping. -/
def fillEntries (d : Draft) (n : Nat) : Except Fault (Draft × List (Value × Nat)) := do
  let d := { d with graph := ← d.graph.merged n }
  (d.graph.entries n).foldlM (fun (d, found) (k, v) => do
    let d ← d.visit k
    let key ← d.key k
    return (← d.visit v, Value.put key v found)) (d, [])

/-- The pairs of a sequence of mappings with one entry each. -/
def fillPairs (d : Draft) (items : List Nat) : Except Fault (Draft × List (Nat × Nat)) :=
  items.foldlM (fun (d, found) item =>
    match d.graph.get item with
    | .mapping _ [(k, v)] => do return (← (← d.visit k).visit v, found ++ [(k, v)])
    | _ => .error .badValue) (d, [])

/-- Fills a collection. -/
def fill (d : Draft) (n : Nat) : Except Fault Draft :=
  match (d.graph.get n).tag, d.graph.get n with
  | .map, _ => do
    let (d, es) ← d.fillEntries n
    return d.put n (.map es)
  | .set, _ => do
    let (d, es) ← d.fillEntries n
    return d.put n (.set (es.map (·.1)))
  | .pairs, .sequence _ items => do
    let (d, ps) ← d.fillPairs items
    return d.put n (.pairs ps)
  | .seq, .sequence _ items => do return (← items.foldlM visit d).put n (.list items)
  | _, _ => .error .badValue

/-- Fills all collections. The fuel bounds their number. -/
def fillAll : Nat → Draft → Except Fault Draft
  | 0, d => .ok d
  | fuel + 1, d =>
    match d.queue with
    | [] => .ok d
    | n :: rest => do fillAll fuel (← { d with queue := rest }.fill n)

end Draft

/-- What the nodes of a graph come to. -/
def ofGraph (root : Nat) (g : Graph) : Except Fault Document := do
  let size := g.nodes.size
  let d ← (Draft.mk g (Array.replicate size none) []).visit root
  return ⟨(← d.fillAll (size + 1)).contents, root⟩

/-! ## Values -/

/-- What a node comes to. -/
def get (d : Document) (n : Nat) : Content := (d.contents[n]?).join.getD (.leaf .null)

/-- The value of a node inside collections. The fuel bounds the depth. -/
def valueIn : Nat → Document → List Nat → Nat → Value
  | 0, _, _, _ => .null
  | fuel + 1, d, inside, n =>
    let part := valueIn fuel d (n :: inside)
    match d.get n with
    | .leaf v => v
    | .list items => if inside.contains n then .loop false else .list (items.map part)
    | .pairs items =>
      if inside.contains n then .loop false else .list (items.map fun e => .pair (part e.1) (part e.2))
    | .set members => .set members
    | .map entries => if inside.contains n then .loop true else .map (entries.map fun e => (e.1, part e.2))

/-- The value of a node. -/
def value (d : Document) (n : Nat) : Value := valueIn (d.contents.size + 1) d [] n

/-- Whether a document is a map. -/
def isMap (d : Document) : Bool :=
  match d.get d.root with
  | .map _ => true
  | _ => false

/-- Whether a document counts as given: nothing that is empty does. -/
def truthy (d : Document) : Bool :=
  match d.get d.root with
  | .leaf v => v.truthy
  | .list items => !items.isEmpty
  | .pairs items => !items.isEmpty
  | .set members => !members.isEmpty
  | .map entries => !entries.isEmpty

/-- The node under a text key of a node. -/
def child? (d : Document) (n : Nat) (key : String) : Option Nat :=
  match d.get n with
  | .map entries => Value.find? key entries
  | _ => none

/-- The value of an entry in a section. -/
def setting? (d : Document) (section_ key : String) : Option Value :=
  ((d.child? d.root section_).bind fun n => d.child? n key).map d.value

/-- A document without content. -/
def nothing : Document := ⟨#[], 0⟩

/-- The only document of a text. A text that is no single document of known tags is a fault. -/
def ofText (s : String) : Except Fault Document :=
  match Token.ofText? s.toList with
  | none => .error .badValue
  | some tokens => do
    match ← Graph.ofTokens tokens with
    | some (root, g) => ofGraph root g
    | none => return nothing

end Document

end ChatRelay.Yaml
