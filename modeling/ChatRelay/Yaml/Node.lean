import ChatRelay.Fault
import ChatRelay.Yaml.Plain
import ChatRelay.Yaml.Token

/-!
# The nodes of a document

- `Node`: a scalar, a sequence or a mapping with its tag. The parts of a collection are told by their numbers, so an
  alias is the number of the node that it names, which may lie around it;
- `Graph`: the nodes of a document by their numbers, and `Graph.ofTokens`: those of the only document of a text. A
  text without a document has none, and one with a second document is a fault, as is one whose collections lie too deep
in each other.

Every reader takes the tokens that are left and gives those that it leaves. It runs on fuel, of which twice the number
of tokens is enough.
-/

namespace ChatRelay.Yaml

/-- A part of a document with its tag. -/
inductive Node
  | scalar (tag : Tag) (codes : List Nat)
  | sequence (tag : Tag) (items : List Nat)
  | mapping (tag : Tag) (entries : List (Nat × Nat))

namespace Node

/-- The node that stands where nothing is written. -/
def empty : Node := .scalar .null []

/-- The tag of a node. -/
def tag : Node → Tag
  | .scalar t _ | .sequence t _ | .mapping t _ => t

/-- The node with another tag. -/
def withTag (t : Tag) : Node → Node
  | .scalar _ codes => .scalar t codes
  | .sequence _ items => .sequence t items
  | .mapping _ entries => .mapping t entries

end Node

/-- The nodes of a document by their numbers. -/
structure Graph where
  nodes : Array Node

namespace Graph

/-- The node of a number. -/
def get (g : Graph) (n : Nat) : Node := g.nodes.getD n .empty

/-- The graph with another node under a number. -/
def set (g : Graph) (n : Nat) (node : Node) : Graph := ⟨g.nodes.setIfInBounds n node⟩

/-- What is known while the tokens are put together. -/
structure Scope where
  /-- What the handles of tags stand for. -/
  handles : List (String × String)
  /-- The numbers of the nodes that anchors name. -/
  anchors : List (String × Nat)
  graph : Graph
  /-- How many collections lie around the next part. -/
  depth : Nat

/-- The handles that every document has. -/
def defaultHandles : List (String × String) := [("!", "!"), ("!!", "tag:yaml.org,2002:")]

/-- The result of a reader, the scope after it, and the tokens that are left. -/
structure Parsed (α : Type) where
  result : α
  scope : Scope
  rest : List Token

/-- The anchor and the tag in front of a node. -/
structure Properties where
  anchor : Option String
  tag : Option TagSpelling

/-- Reads the anchor and the tag in front of a node, in either order. -/
def properties : List Token → Properties × List Token
  | .anchor a :: .tag t :: rest => (⟨some a, some t⟩, rest)
  | .tag t :: .anchor a :: rest => (⟨some a, some t⟩, rest)
  | .anchor a :: rest => (⟨some a, none⟩, rest)
  | .tag t :: rest => (⟨none, some t⟩, rest)
  | rest => (⟨none, none⟩, rest)

/-- The full tag of a spelling. -/
def Scope.expand (s : Scope) (t : TagSpelling) : Option String :=
  match t.handle with
  | none => some t.suffix
  | some h => (Assoc.get? h s.handles).map (· ++ t.suffix)

/-- Adds a node, which an anchor may name. -/
def Scope.add (s : Scope) (anchor : Option String) (node : Node) : Nat × Scope :=
  let n := s.graph.nodes.size
  let anchors := match anchor with
    | some name => Assoc.put name n s.anchors
    | none => s.anchors
  (n, { s with anchors := anchors, graph := ⟨s.graph.nodes.push node⟩ })

/-- A scalar that is the next part. -/
def Scope.scalar (s : Scope) (anchor : Option String) (tag : Tag) (codes : List Nat) (rest : List Token) :
    Parsed Nat :=
  let (n, s) := s.add anchor (.scalar tag codes)
  ⟨n, s, rest⟩

/-- Nothing as the next part. -/
def Scope.empty (s : Scope) (rest : List Token) : Parsed Nat := s.scalar none .null [] rest

/-- The scope inside a collection. -/
def Scope.inner (s : Scope) : Scope := { s with depth := s.depth + 1 }

/-- The scope after a collection inside it, which left nodes and names. -/
def Scope.after (s inside : Scope) : Scope := { inside with depth := s.depth }

/-- The fault of tokens that fit nowhere. -/
def refused {α : Type} : Except Fault α := .error .badValue

/-- A tag that says nothing is none. -/
def known (tag : Option String) : Option Tag := (tag.filter (· ≠ "!")).map Tag.ofName

/-- The tag of a scalar. Without one that says something, plain text is told by its form, and so is every text behind
a tag that says nothing. -/
def scalarTag (tag : Option String) (isPlain : Bool) (codes : List Nat) : Tag :=
  (known tag).getD (if isPlain || tag.isSome then ((Text.ofCodes? codes).map Plain.tag).getD .str else .str)

/-- Whether a token begins the part of an entry after its mark, rather than the next mark. -/
def isEntryEnd (t : Token) : Bool := t = .key || t = .value || t = .blockEnd

/-- An empty scalar, which only an anchor or a tag can stand for. -/
def blank (anchor tag : Option String) (s : Scope) (tokens : List Token) : Except Fault (Parsed Nat) :=
  if anchor.isNone && tag.isNone then refused else .ok (s.scalar anchor (scalarTag tag true []) [] tokens)

/-- The tokens after the comma that separates an item from the one before. -/
def separated (isFirst : Bool) (tokens : List Token) : Except Fault (List Token) :=
  if isFirst then .ok tokens
  else
    match tokens with
    | .flowEntry :: rest => .ok rest
    | _ => refused

variable [Host]

mutual

/-- Reads a node. In an indented mapping a sequence may stand without indentation, and indented collections stand
outside brackets only. -/
def node (isBlock unindented : Bool) : Nat → Scope → List Token → Except Fault (Parsed Nat)
  | 0, _, _ => refused
  | fuel + 1, s, tokens =>
    let (p, rest) := properties tokens
    if (Host.depthFault? (2 * s.depth)).isSome then .error .tooDeep
    else if (p.anchor.bind fun a => Assoc.get? a s.anchors).isSome then refused
    else
      match tokens, p.tag with
      | .alias name :: rest, _ =>
        match Assoc.get? name s.anchors with
        | some n => .ok ⟨n, s, rest⟩
        | none => refused
      | _, none => content isBlock unindented fuel p.anchor none s rest
      | _, some t =>
        match s.expand t with
        | some tag => content isBlock unindented fuel p.anchor (some tag) s rest
        | none => refused

/-- Reads what stands after the anchor and the tag of a node. A collection has its number before its parts have
theirs. -/
def content (isBlock unindented : Bool) :
    Nat → Option String → Option String → Scope → List Token → Except Fault (Parsed Nat)
  | 0, _, _, _, _ => refused
  | fuel + 1, anchor, tag, s, tokens =>
    let (n, inside) := s.inner.add anchor .empty
    let finish (inside : Scope) (node : Node) (rest : List Token) : Parsed Nat :=
      ⟨n, { s.after inside with graph := inside.graph.set n node }, rest⟩
    let asSequence (r : Parsed (List Nat)) := finish r.scope (.sequence ((known tag).getD .seq) r.result) r.rest
    let asMapping (r : Parsed (List (Nat × Nat))) :=
      finish r.scope (.mapping ((known tag).getD .map) r.result) r.rest
    match tokens with
    | .blockEntry :: rest =>
      if unindented then (plainItems fuel inside (.blockEntry :: rest)).map asSequence
      else blank anchor tag s tokens
    | .scalar codes isPlain :: rest =>
      .ok (s.scalar anchor (scalarTag tag (isPlain && tag.isNone) codes) codes rest)
    | .flowSequence :: rest => (flowItems fuel true inside rest).map asSequence
    | .flowMapping :: rest => (flowEntries fuel true inside rest).map asMapping
    | .blockSequence :: rest =>
      if isBlock then (blockItems fuel inside rest).map asSequence else blank anchor tag s tokens
    | .blockMapping :: rest =>
      if isBlock then (blockEntries fuel inside rest).map asMapping else blank anchor tag s tokens
    | _ => blank anchor tag s tokens

/-- Reads the items of an indented sequence. -/
def blockItems : Nat → Scope → List Token → Except Fault (Parsed (List Nat))
  | 0, _, _ => refused
  | _ + 1, s, .blockEnd :: rest => .ok ⟨[], s, rest⟩
  | fuel + 1, s, .blockEntry :: rest => do
    let item ←
      if rest.head? = some .blockEntry || rest.head? = some .blockEnd then .ok (s.empty rest)
      else node true false fuel s rest
    let more ← blockItems fuel item.scope item.rest
    return ⟨item.result :: more.result, more.scope, more.rest⟩
  | _ + 1, _, _ => refused

/-- Reads the items of a sequence without indentation of its own. -/
def plainItems : Nat → Scope → List Token → Except Fault (Parsed (List Nat))
  | 0, _, _ => refused
  | fuel + 1, s, .blockEntry :: rest => do
    let item ←
      if (rest.head?.map fun t => t = .blockEntry || isEntryEnd t).getD false then .ok (s.empty rest)
      else node true false fuel s rest
    let more ← plainItems fuel item.scope item.rest
    return ⟨item.result :: more.result, more.scope, more.rest⟩
  | _ + 1, s, rest => .ok ⟨[], s, rest⟩

/-- Reads the key or the value after its mark in an indented mapping. -/
def blockPart : Nat → Scope → List Token → Except Fault (Parsed Nat)
  | 0, _, _ => refused
  | fuel + 1, s, rest =>
    if (rest.head?.map isEntryEnd).getD false then .ok (s.empty rest) else node true true fuel s rest

/-- Reads the entries of an indented mapping. -/
def blockEntries : Nat → Scope → List Token → Except Fault (Parsed (List (Nat × Nat)))
  | 0, _, _ => refused
  | _ + 1, s, .blockEnd :: rest => .ok ⟨[], s, rest⟩
  | fuel + 1, s, .key :: rest => do
    let k ← blockPart fuel s rest
    let v ←
      match k.rest with
      | .value :: rest => blockPart fuel k.scope rest
      | rest => .ok (k.scope.empty rest)
    let more ← blockEntries fuel v.scope v.rest
    return ⟨(k.result, v.result) :: more.result, more.scope, more.rest⟩
  | _ + 1, _, _ => refused

/-- Reads the key or the value after its mark between brackets, up to a mark that closes. -/
def flowPart (close : Token) : Nat → Scope → List Token → Except Fault (Parsed Nat)
  | 0, _, _ => refused
  | fuel + 1, s, rest =>
    if rest.head? = some .flowEntry || rest.head? = some close then .ok (s.empty rest)
    else node false false fuel s rest

/-- Reads an entry after its key mark between brackets. -/
def flowPair (close : Token) : Nat → Scope → List Token → Except Fault (Parsed (Nat × Nat))
  | 0, _, _ => refused
  | fuel + 1, s, rest => do
    let k ← if rest.head? = some .value then .ok (s.empty rest) else flowPart close fuel s rest
    let v ←
      match k.rest with
      | .value :: rest => flowPart close fuel k.scope rest
      | rest => .ok (k.scope.empty rest)
    return ⟨(k.result, v.result), v.scope, v.rest⟩

/-- Reads the items between square brackets. A pair among them is a mapping of one entry. -/
def flowItems : Nat → Bool → Scope → List Token → Except Fault (Parsed (List Nat))
  | 0, _, _, _ => refused
  | _ + 1, _, s, .flowSequenceEnd :: rest => .ok ⟨[], s, rest⟩
  | fuel + 1, isFirst, s, tokens => do
    let tokens ← separated isFirst tokens
    match tokens with
    | .flowSequenceEnd :: rest => return ⟨[], s, rest⟩
    | .key :: rest =>
      let e ← flowPair .flowSequenceEnd fuel s.inner rest
      let (n, after) := (s.after e.scope).add none (.mapping .map [e.result])
      let more ← flowItems fuel false after e.rest
      return ⟨n :: more.result, more.scope, more.rest⟩
    | tokens =>
      let item ← node false false fuel s tokens
      let more ← flowItems fuel false item.scope item.rest
      return ⟨item.result :: more.result, more.scope, more.rest⟩

/-- Reads the entries between braces. A key without a value has an empty one. -/
def flowEntries : Nat → Bool → Scope → List Token → Except Fault (Parsed (List (Nat × Nat)))
  | 0, _, _, _ => refused
  | _ + 1, _, s, .flowMappingEnd :: rest => .ok ⟨[], s, rest⟩
  | fuel + 1, isFirst, s, tokens => do
    let tokens ← separated isFirst tokens
    match tokens with
    | .flowMappingEnd :: rest => return ⟨[], s, rest⟩
    | .key :: rest =>
      let e ← flowPair .flowMappingEnd fuel s rest
      let more ← flowEntries fuel false e.scope e.rest
      return ⟨e.result :: more.result, more.scope, more.rest⟩
    | tokens =>
      let k ← node false false fuel s tokens
      let v := k.scope.empty k.rest
      let more ← flowEntries fuel false v.scope v.rest
      return ⟨(k.result, v.result) :: more.result, more.scope, more.rest⟩

end

/-- Reads the directives in front of a document. -/
def directives (hasVersion : Bool) (handles : List (String × String)) :
    List Token → Except Fault (List (String × String) × List Token)
  | .version major :: rest => if hasVersion || major ≠ 1 then refused else directives true handles rest
  | .tagHandle h meaning :: rest =>
    if Assoc.contains h handles then refused else directives hasVersion (Assoc.put h meaning handles) rest
  | .reserved :: rest => directives hasVersion handles rest
  | rest => .ok (handles, rest)

/-- The handles of a document: its own, and those of every document that it does not define. -/
def withDefaults (handles : List (String × String)) : List (String × String) :=
  defaultHandles.foldl (fun hs h => if Assoc.contains h.1 hs then hs else Assoc.put h.1 h.2 hs) handles

/-- Whether nothing but ends of documents follows. -/
def isOver (tokens : List Token) : Bool := tokens.dropWhile (· = .documentEnd) = [.streamEnd]

/-- Whether a document is empty after its mark. -/
def isBare : Token → Bool
  | .version _ | .tagHandle _ _ | .reserved | .documentStart | .documentEnd | .streamEnd => true
  | _ => false

/-- Reads the only document, after its mark if it has one. -/
def document (handles : List (String × String)) (tokens : List Token) : Except Fault (Nat × Graph) := do
  let r ← node true false (2 * tokens.length + 2) ⟨withDefaults handles, [], ⟨#[]⟩, 0⟩ tokens
  if isOver r.rest then return (r.result, r.scope.graph) else refused

/-- The nodes of the only document with the number of the one around all others, none if there is no document. -/
def ofTokens (tokens : List Token) : Except Fault (Option (Nat × Graph)) :=
  match tokens with
  | [.streamEnd] => .ok none
  | t :: _ =>
    if t = .documentStart || (isBare t && t ≠ .documentEnd) then do
      let (handles, rest) ← directives false [] tokens
      match rest with
      | .documentStart :: rest =>
        if (rest.head?.map isBare).getD true then if isOver rest then return some (0, ⟨#[.empty]⟩) else refused
        else return some (← document handles rest)
      | _ => refused
    else (document [] tokens).map some
  | [] => refused

end Graph

end ChatRelay.Yaml
