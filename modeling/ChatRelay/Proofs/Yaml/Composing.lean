import ChatRelay.Proofs.Yaml.Lexing

/-!
# The nodes of a sheet

- `Sheet.nodes`: the nodes of a sheet by their numbers: the mapping of the sections, and for every section its name, the
  mapping of its entries, and a key and a value for each entry;
- `Sheet.graph_of_tokens`: the tokens of a sheet make up these nodes.
-/

namespace ChatRelay.Yaml

open ChatRelay.Yaml.Graph (Scope Parsed)

theorem ofCodes?_numbers (cs : List Char) : Text.ofCodes? (Scalar.numbers cs) = some (String.ofList cs) := by
  have hnone : ((Scalar.numbers cs).any fun n => Text.isHighSurrogate n || Text.isLowSurrogate n) = false := by
    simp only [Scalar.numbers, List.any_map, List.any_eq_false]
    intro c _
    have hv : c.toNat < 55296 ∨ 57343 < c.toNat := by
      have := c.valid
      simp only [UInt32.isValidChar, Nat.isValidChar] at this
      exact this.imp id And.left
    simp only [Function.comp_apply, Text.isHighSurrogate, Text.isLowSurrogate, Bool.or_eq_true, Bool.and_eq_true,
      decide_eq_true_eq]
    omega
  have hmap : (Scalar.numbers cs).map Char.ofNat = cs := by
    rw [Scalar.numbers, List.map_map]
    exact (List.map_congr_left fun c _ => Char.ofNat_toNat c).trans (List.map_id cs)
  simp [Text.ofCodes?, hnone, hmap]

/-! ## Nodes -/

/-- The tag of a value. -/
def Writing.tag (v : Writing) : Tag := Graph.scalarTag none v.isPlain v.codes

namespace Entry

/-- The node of what stands on the line of a key. -/
def valueNode : Option (Nat × Writing) → Node
  | none => .empty
  | some (_, v) => .scalar v.tag v.codes

/-- The node of a key. -/
def keyNode (e : Entry) : Node := .scalar .str (Scalar.numbers e.key.chars)

/-- The nodes of an entry. -/
def nodes (e : Entry) : List Node := [e.keyNode, valueNode e.value]

/-- The entries of a mapping whose nodes begin at a number. -/
def pairs (n : Nat) : List Entry → List (Nat × Nat)
  | [] => []
  | _ :: es => (n, n + 1) :: pairs (n + 2) es

end Entry

namespace Section

/-- The nodes of the entries of a section with the mapping around them, whose number is given. -/
def bodyNodes (n : Nat) : List Entry → List Node
  | [] => [.empty]
  | es => .mapping .map (Entry.pairs (n + 1) es) :: es.flatMap Entry.nodes

/-- The nodes of sections, from a number on. -/
def nodes (n : Nat) : List Section → List Node
  | [] => []
  | s :: ss => s.heading.keyNode :: bodyNodes (n + 1) s.entries ++ nodes (n + 2 + 2 * s.entries.length) ss

/-- The entries of the mapping of the sections whose nodes begin at a number. -/
def pairs (n : Nat) : List Section → List (Nat × Nat)
  | [] => []
  | s :: ss => (n, n + 1) :: pairs (n + 2 + 2 * s.entries.length) ss

end Section

/-- The nodes of a sheet. -/
def Sheet.nodes (f : Sheet) : List Node := .mapping .map (Section.pairs 1 f.sections) :: Section.nodes 1 f.sections

/-! ## Scopes -/

namespace Graph

/-- The scope with more nodes. -/
def Scope.extend (s : Scope) (xs : List Node) : Scope := { s with graph := ⟨s.graph.nodes ++ xs.toArray⟩ }

/-- How many nodes there are. -/
def Scope.size (s : Scope) : Nat := s.graph.nodes.size

section Scopes

variable (s : Scope) (xs ys : List Node)

theorem Scope.extend_nil : s.extend [] = s := by simp [extend]

@[simp] theorem Scope.extend_extend : (s.extend xs).extend ys = s.extend (xs ++ ys) := by
  simp [extend]

@[simp] theorem Scope.size_extend : (s.extend xs).size = s.size + xs.length := by
  simp [extend, size]

@[simp] theorem Scope.depth_extend : (s.extend xs).depth = s.depth := rfl

theorem Scope.add_none (node : Node) : s.add none node = (s.size, s.extend [node]) := by
  simp [add, extend, size]

/-- A collection gets its own node once its parts are read. -/
theorem Scope.set_extend (node : Node) :
    (⟨s.graph.nodes ++ (Node.empty :: ys).toArray⟩ : Graph).set s.size node =
      ⟨s.graph.nodes ++ (node :: ys).toArray⟩ := by
  have hlist : (s.graph.nodes ++ (Node.empty :: ys).toArray).setIfInBounds s.size node =
      s.graph.nodes ++ (node :: ys).toArray := by
    apply Array.ext'
    simp [Scope.size]
  exact congrArg Graph.mk hlist

end Scopes

/-! ## Readers -/

variable {s : Scope} {fuel : Nat} {rest : List Token}

section

variable [Host]

/-- Around what does not lie too deep nothing does. -/
theorem depthFault?_outer {depth : Nat} (h : Host.depthFault? (2 * (depth + 1)) = none) :
    Host.depthFault? (2 * depth) = none :=
  Host.depthFault?_mono (by omega) h

theorem node_scalar {isBlock unindented : Bool} {codes : List Nat} {isPlain : Bool}
    (hd : Host.depthFault? (2 * s.depth) = none) :
    node isBlock unindented (fuel + 2) s (.scalar codes isPlain :: rest) =
      .ok ⟨s.size, s.extend [.scalar (scalarTag none isPlain codes) codes], rest⟩ := by
  rw [node]
  simp only [properties, hd, Option.isSome_none, Bool.false_eq_true, if_false, Option.bind_none]
  rw [content]
  simp only [Scope.scalar, Option.isNone_none, Bool.and_true, Scope.add_none]

theorem node_mapping (unindented : Bool) {es : List (Nat × Nat)} {ys : List Node} {rest' : List Token}
    (hd : Host.depthFault? (2 * s.depth) = none)
    (h : blockEntries fuel (s.inner.extend [.empty]) rest = .ok ⟨es, s.inner.extend (.empty :: ys), rest'⟩) :
    node true unindented (fuel + 2) s (.blockMapping :: rest) =
      .ok ⟨s.size, s.extend (.mapping .map es :: ys), rest'⟩ := by
  rw [node]
  simp only [properties, hd, Option.isSome_none, Bool.false_eq_true, if_false, Option.bind_none]
  rw [content]
  have hset : (s.inner.extend (.empty :: ys)).graph.set s.inner.size (.mapping .map es) =
      (s.extend (.mapping .map es :: ys)).graph := Scope.set_extend s ys _
  simp only [Scope.add_none, h, if_true, Except.map, show (known none).getD Tag.map = .map from rfl, hset]
  rfl

/-- Whether a mark ends what stands before it in a mapping. -/
def EndsPart (rest : List Token) : Prop := rest.head?.map isEntryEnd = some true

theorem blockPart_scalar {codes : List Nat} {isPlain : Bool} (hd : Host.depthFault? (2 * s.depth) = none) :
    blockPart (fuel + 3) s (.scalar codes isPlain :: rest) =
      .ok ⟨s.size, s.extend [.scalar (scalarTag none isPlain codes) codes], rest⟩ := by
  rw [blockPart, node_scalar hd]
  simp [isEntryEnd]

theorem blockPart_empty (h : EndsPart rest) : blockPart (fuel + 1) s rest = .ok ⟨s.size, s.extend [.empty], rest⟩ := by
  have hend : (rest.head?.map isEntryEnd).getD false = true := by
    rw [show rest.head?.map isEntryEnd = some true from h]
    rfl
  rw [blockPart, hend]
  simp [Scope.empty, Scope.scalar, Scope.add_none, Node.empty]

theorem blockPart_value {value : Option (Nat × Writing)} (hd : Host.depthFault? (2 * s.depth) = none)
    (h : EndsPart rest) :
    blockPart (fuel + 3) s (Entry.valueTokens value ++ rest) =
      .ok ⟨s.size, s.extend [Entry.valueNode value], rest⟩ := by
  cases value with
  | none => exact blockPart_empty h
  | some v => exact blockPart_scalar hd

end

theorem scalarTag_key (w : Word) : scalarTag none true (Scalar.numbers w.chars) = .str := by
  have ht : Plain.tag (String.ofList w.chars) = .str := w.isText
  simp [scalarTag, known, ofCodes?_numbers, ht]

/-- One round of the reader of a mapping: a key and what its value comes to. -/
theorem blockEntries_key [Host] {w : Word} {value : Parsed Nat} (hd : Host.depthFault? (2 * s.depth) = none)
    (h : blockPart (fuel + 3) (s.extend [.scalar .str (Scalar.numbers w.chars)]) rest = .ok value) :
    blockEntries (fuel + 4) s (.key :: .scalar (Scalar.numbers w.chars) true :: .value :: rest) =
      (blockEntries (fuel + 3) value.scope value.rest).map fun more =>
        ⟨(s.size, value.result) :: more.result, more.scope, more.rest⟩ := by
  rw [blockEntries, blockPart_scalar hd, scalarTag_key]
  simp only [bind, Except.bind, h]
  cases blockEntries (fuel + 3) value.scope value.rest <;> rfl

theorem blockEntries_end [Host] : blockEntries (fuel + 1) s (.blockEnd :: rest) = .ok ⟨[], s, rest⟩ := by
  rw [blockEntries]

theorem endsPart_entries (es : List Entry) : EndsPart (es.flatMap Entry.tokens ++ .blockEnd :: rest) := by
  cases es <;> rfl

/-- The reader of a mapping reads entries with a value or nothing on their line. -/
theorem blockEntries_entries [Host] {es : List Entry} (hd : Host.depthFault? (2 * s.depth) = none)
    (hfuel : es.length + 4 ≤ fuel) :
    blockEntries fuel s (es.flatMap Entry.tokens ++ .blockEnd :: rest) =
      .ok ⟨Entry.pairs s.size es, s.extend (es.flatMap Entry.nodes), rest⟩ := by
  induction es generalizing s fuel with
  | nil =>
    obtain ⟨fuel, rfl⟩ : ∃ n, fuel = n + 1 := ⟨fuel - 1, by omega⟩
    simpa [Entry.pairs, Scope.extend_nil] using blockEntries_end
  | cons e es ih =>
    obtain ⟨fuel, rfl⟩ : ∃ n, fuel = n + 4 := ⟨fuel - 4, by omega⟩
    have htokens : (e :: es).flatMap Entry.tokens ++ .blockEnd :: rest =
        .key :: .scalar (Scalar.numbers e.key.chars) true :: .value ::
          (Entry.valueTokens e.value ++ (es.flatMap Entry.tokens ++ .blockEnd :: rest)) := by
      simp [Entry.tokens]
    rw [htokens, blockEntries_key hd (blockPart_value (s := s.extend _) hd (endsPart_entries es))]
    rw [ih (by simpa using hd) (by simp only [List.length_cons] at hfuel; omega)]
    simp [Except.map, Entry.pairs, Entry.nodes, Entry.keyNode]

/-- What stands below the name of a section is a mapping of its entries, or nothing. -/
theorem blockPart_body [Host] {es : List Entry} (hd : Host.depthFault? (2 * (s.depth + 1)) = none)
    (hfuel : es.length + 4 ≤ fuel) (h : EndsPart rest) :
    blockPart (fuel + 3) s (Section.body es ++ rest) =
      .ok ⟨s.size, s.extend (Section.bodyNodes s.size es), rest⟩ := by
  cases es with
  | nil => exact blockPart_empty h
  | cons e es =>
    have hread := @blockEntries_entries (s.inner.extend [.empty]) fuel rest _ (e :: es) hd hfuel
    rw [Scope.extend_extend, Scope.size_extend] at hread
    have hnode := node_mapping true (depthFault?_outer hd) hread
    have hbody : Section.body (e :: es) ++ rest =
        .blockMapping :: ((e :: es).flatMap Entry.tokens ++ .blockEnd :: rest) := by
      simp [Section.body]
    rw [hbody, blockPart, hnode]
    simp [isEntryEnd, Section.bodyNodes, Scope.size, Scope.inner]

theorem endsPart_sections (ss : List Section) : EndsPart (ss.flatMap Section.tokens ++ .blockEnd :: rest) := by
  cases ss <;> rfl

theorem length_body (es : List Entry) : es.length ≤ (Section.body es).length := by
  have hlen : es.length ≤ (es.flatMap Entry.tokens).length := by
    induction es with
    | nil => exact Nat.le_refl _
    | cons e es ih =>
      simp only [List.flatMap_cons, List.length_append, List.length_cons, Entry.tokens]
      omega
  cases es with
  | nil => exact Nat.zero_le _
  | cons e es =>
    simp only [Section.body, List.length_cons, List.length_append] at hlen ⊢
    omega

theorem length_bodyNodes (n : Nat) (es : List Entry) :
    (Section.bodyNodes n es).length = 1 + 2 * es.length := by
  have hlen : (es.flatMap Entry.nodes).length = 2 * es.length := by
    induction es with
    | nil => rfl
    | cons e es ih =>
      rw [List.flatMap_cons, List.length_append, ih]
      simp only [Entry.nodes, List.length_cons, List.length_nil]
      omega
  cases es with
  | nil => rfl
  | cons e es => rw [Section.bodyNodes, List.length_cons, hlen, Nat.add_comm]; simp

/-- The reader of a mapping reads sections. -/
theorem blockEntries_sections [Host] {ss : List Section} (hd : Host.depthFault? (2 * (s.depth + 1)) = none)
    (hfuel : (ss.flatMap Section.tokens).length + 8 ≤ fuel) :
    blockEntries fuel s (ss.flatMap Section.tokens ++ .blockEnd :: rest) =
      .ok ⟨Section.pairs s.size ss, s.extend (Section.nodes s.size ss), rest⟩ := by
  induction ss generalizing s fuel with
  | nil =>
    obtain ⟨fuel, rfl⟩ : ∃ n, fuel = n + 1 := ⟨fuel - 1, by omega⟩
    simpa [Section.pairs, Section.nodes, Scope.extend_nil] using blockEntries_end
  | cons x ss ih =>
    obtain ⟨fuel, rfl⟩ : ∃ n, fuel = n + 4 := ⟨fuel - 4, by omega⟩
    have htokens : (x :: ss).flatMap Section.tokens ++ .blockEnd :: rest =
        .key :: .scalar (Scalar.numbers x.heading.key.chars) true :: .value ::
          (Section.body x.entries ++ (ss.flatMap Section.tokens ++ .blockEnd :: rest)) := by
      simp [Section.tokens, Entry.tokens, x.bare, Entry.valueTokens]
    have hlength : (x.entries.length + 4 ≤ fuel) ∧ (ss.flatMap Section.tokens).length + 8 ≤ fuel + 3 := by
      have := length_body x.entries
      simp only [List.flatMap_cons, List.length_append, Section.tokens, Entry.tokens, List.length_cons,
        List.length_nil] at hfuel
      omega
    rw [htokens, blockEntries_key (depthFault?_outer hd)
      (blockPart_body (s := s.extend _) hd hlength.1 (endsPart_sections ss))]
    rw [ih (by simpa using hd) hlength.2]
    have hnext : s.size + (1 + 2 * x.entries.length + 1) = s.size + 2 + 2 * x.entries.length := by omega
    simp only [Except.map, Section.pairs, Section.nodes, Entry.keyNode, length_bodyNodes, Scope.extend_extend,
      Scope.size_extend, List.length_cons, List.length_nil, Nat.zero_add, List.cons_append, List.nil_append, hnext]

end Graph

/-- The tokens of a sheet make up its nodes. -/
theorem Sheet.graph_of_tokens [Host] (f : Sheet) (h : f.sections ≠ []) :
    Graph.ofTokens f.tokens = .ok (some (0, ⟨f.nodes.toArray⟩)) := by
  have htokens : f.tokens = .blockMapping :: (f.sections.flatMap Section.tokens ++ .blockEnd :: [.streamEnd]) := by
    unfold tokens
    split
    · next hs => exact absurd hs h
    · simp
  have hfuel : (f.sections.flatMap Section.tokens).length + 8 ≤ 2 * f.tokens.length := by
    obtain ⟨x, ss, hss⟩ := List.exists_cons_of_ne_nil h
    simp only [htokens, hss, List.flatMap_cons, Section.tokens, Entry.tokens, List.length_cons, List.length_append,
      List.length_nil]
    omega
  have hread := @Graph.blockEntries_sections ((⟨Graph.withDefaults [], [], ⟨#[]⟩, 0⟩ : Scope).inner.extend [.empty])
    (2 * f.tokens.length) [.streamEnd] _ f.sections (Host.depthFault?_of_le (by decide)) hfuel
  rw [Scope.extend_extend, Scope.size_extend] at hread
  have hnode := Graph.node_mapping false (Host.depthFault?_of_le (by decide)) hread
  rw [← htokens] at hnode
  have hbegin : Graph.ofTokens f.tokens = (Graph.document [] f.tokens).map some := by
    rw [htokens]
    rfl
  rw [hbegin, Graph.document, hnode]
  simp only [bind, Except.bind]
  have hover : Graph.isOver [.streamEnd] = true := by decide
  rw [if_pos hover]
  simp [Except.map, pure, Except.pure, Scope.extend, nodes, Scope.size, Scope.inner]

end ChatRelay.Yaml
