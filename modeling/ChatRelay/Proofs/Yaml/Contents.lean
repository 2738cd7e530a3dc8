import ChatRelay.Proofs.Yaml.Composing
import ChatRelay.Yaml.Document

/-!
# What a sheet comes to

- `Entry.valueAt`: what stands on the line of a key as a value;
- `Graph.Stands`: nodes that stand in a graph from a number on;
- `Draft.gather`, `Entry.settle`, `Section.settle`: what a draft knows after the entries and the sections of a sheet
  were filled in;
- `Sheet.document`: the document of a sheet, which its nodes come to (`Sheet.ofGraph_graph`).
-/

namespace ChatRelay.Yaml

/-! ## Values and tables -/

namespace Entry

/-- The text of a key. -/
def name (e : Entry) : String := String.ofList e.key.chars

/-- What stands on the line of a key as the value of a node. -/
def valueAt [Host] (n : Nat) : Option (Nat × Writing) → Except Fault Value
  | none => .ok .null
  | some (_, v) => Tagged.value n v.tag v.codes

/-- The values of entries whose nodes begin at a number. -/
def values [Host] (n : Nat) : List Entry → Except Fault (List Value)
  | [] => .ok []
  | e :: es => do
    let v ← valueAt (n + 1) e.value
    let vs ← values (n + 2) es
    return v :: vs

/-- The entries of a mapping whose nodes begin at a number, with their keys. -/
def table (n : Nat) : List Entry → List (Value × Nat)
  | [] => []
  | e :: es => (.str e.name, n + 1) :: table (n + 2) es

end Entry

namespace Section

/-- The values of the entries of sections whose nodes begin at a number. -/
def values [Host] (n : Nat) : List Section → Except Fault (List (List Value))
  | [] => .ok []
  | s :: ss => do
    let vs ← Entry.values (n + 2) s.entries
    let vss ← values (n + 2 + 2 * s.entries.length) ss
    return vs :: vss

/-- The sections whose nodes begin at a number, with their names. -/
def table (n : Nat) : List Section → List (Value × Nat)
  | [] => []
  | s :: ss => (.str s.heading.name, n + 1) :: table (n + 2 + 2 * s.entries.length) ss

end Section

/-! ## Standing nodes -/

namespace Graph

/-- Nodes stand in a graph from a number on. -/
def Stands (g : Graph) (n : Nat) (xs : List Node) : Prop :=
  ∀ i x, xs[i]? = some x → g.get (n + i) = x ∧ n + i < g.nodes.size

variable {g : Graph} {n : Nat} {x : Node} {xs ys : List Node}

theorem Stands.head (h : g.Stands n (x :: xs)) : g.get n = x ∧ n < g.nodes.size := h 0 x rfl

theorem Stands.tail (h : g.Stands n (x :: xs)) : g.Stands (n + 1) xs := fun i y hy => by
  have := h (i + 1) y (by simpa using hy)
  rwa [show n + 1 + i = n + (i + 1) by omega]

theorem Stands.left (h : g.Stands n (xs ++ ys)) : g.Stands n xs := fun i y hy => by
  obtain ⟨hi, -⟩ := List.getElem?_eq_some_iff.mp hy
  exact h i y (by rw [List.getElem?_append_left hi]; exact hy)

theorem Stands.right (h : g.Stands n (xs ++ ys)) : g.Stands (n + xs.length) ys := fun i y hy => by
  have := h (xs.length + i) y (by rw [List.getElem?_append_right (Nat.le_add_right _ _)]; simpa using hy)
  rwa [Nat.add_assoc]

theorem stands_all (xs : List Node) : (⟨xs.toArray⟩ : Graph).Stands 0 xs := fun i y hy => by
  obtain ⟨hi, he⟩ := List.getElem?_eq_some_iff.mp hy
  refine ⟨?_, by simpa using hi⟩
  simp [get, hi, he]

/-- A mapping may be written in its own place. -/
theorem set_same {t : Tag} {es : List (Nat × Nat)} (h : g.get n = .mapping t es) : g.set n (.mapping t es) = g := by
  have hin : n < g.nodes.size := Decidable.byContradiction fun hout => by
    have he : g.get n = .empty := by simp [get, hout]
    rw [h] at he
    cases he
  have hget : g.nodes[n] = .mapping t es := by simpa [get, hin] using h
  have hnodes : g.nodes.setIfInBounds n (.mapping t es) = g.nodes := by
    rw [← hget]
    apply Array.ext'
    rw [Array.toList_setIfInBounds]
    exact List.set_getElem_self _
  exact congrArg Graph.mk hnodes

/-- Nothing is merged into a mapping whose keys are texts. -/
theorem merged_of_texts [Host] {t : Tag} {es : List (Nat × Nat)} (h : g.get n = .mapping t es)
    (hk : ∀ e ∈ es, (g.get e.1).tag = .str) : g.merged n = .ok g := by
  have hentries : g.entries n = es := by simp [entries, h]
  have hfind : es.find? (g.hasKeyTag .merge) = none := by
    rw [List.find?_eq_none]
    intro e he
    simp [hasKeyTag, hk e he]
  have hnames : g.nameDefaults es = g := by
    have : ∀ l : List (Nat × Nat), (∀ e ∈ l, (g.get e.1).tag = .str) → g.nameDefaults l = g := by
      intro l
      induction l with
      | nil => intro _; rfl
      | cons e l ih =>
        intro hl
        have he : g.hasKeyTag .default e = false := by simp [hasKeyTag, hl e List.mem_cons_self]
        simpa [nameDefaults, he] using ih fun x hx => hl x (List.mem_cons_of_mem _ hx)
    exact this es hk
  have hset : g.setEntries n es = g := by
    rw [setEntries, h]
    exact set_same h
  have htop : Host.depthFault? 0 = none := Host.depthFault?_of_le (Nat.zero_le _)
  simp only [merged, isMapping, h, if_true, merge, htop, Option.isSome_none, Bool.false_eq_true, if_false, hentries,
    hfind, hnames, List.nil_append, hset]

end Graph

/-! ## Drafts -/

namespace Document.Draft

variable {d : Draft} {n m : Nat} {c : Content}

/-- How many nodes a draft has. -/
def size (d : Draft) : Nat := d.contents.size

@[simp] theorem size_put : (d.put n c).size = d.size := by simp [put, size]

@[simp] theorem graph_put : (d.put n c).graph = d.graph := rfl

@[simp] theorem queue_put : (d.put n c).queue = d.queue := rfl

theorem get?_put_self (h : n < d.size) : (d.put n c).get? n = some c := by
  have h : n < d.contents.size := h
  simp [get?, put, h]

theorem get?_put_of_ne (h : n ≠ m) : (d.put n c).get? m = d.get? m := by
  simp [get?, put, h]

variable [Host]

/-- A scalar comes to its value. -/
theorem visit_scalar {tag : Tag} {codes : List Nat} (hg : d.graph.get n = .scalar tag codes) (hn : d.get? n = none)
    (ht : tag.isCollection = false) :
    d.visit n = (Tagged.value n tag codes).map fun v => d.put n (.leaf v) := by
  have htop : Host.depthFault? 0 = none := Host.depthFault?_of_le (Nat.zero_le _)
  have hcodes : d.graph.codes (d.contents.size + 1) 0 n = .ok codes := by simp [Graph.codes, htop, hg]
  have hmapping : d.graph.isMapping n = false := by simp [Graph.isMapping, hg]
  cases hs : tag.isScalar with
  | true =>
    simp only [visit, hg, Node.tag, hn, Option.isSome_none, Bool.false_eq_true, if_false, ht, hs, hmapping, hcodes]
    cases hv : Tagged.value n tag codes <;> simp [hv, bind, Except.bind, Except.map, pure, Except.pure]
  | false =>
    have hv : Tagged.value n tag codes = .error .badValue := by
      unfold Tagged.value
      cases tag <;> simp_all [Tag.isScalar, Tag.isCollection] <;> split <;> rfl
    simp [visit, hg, Node.tag, hn, ht, hs, hv, Except.map]

/-- A mapping is left for later. -/
theorem visit_mapping {es : List (Nat × Nat)} (hg : d.graph.get n = .mapping .map es) (hn : d.get? n = none) :
    d.visit n = .ok { d.put n (.map []) with queue := d.queue ++ [n] } := by
  simp [visit, hg, hn, Node.tag, Tag.isCollection, unfilled]

/-- One entry of a mapping. -/
def gather (r : Draft × List (Value × Nat)) (e : Nat × Nat) : Except Fault (Draft × List (Value × Nat)) := do
  let d ← r.1.visit e.1
  let key ← d.key e.1
  return (← d.visit e.2, Value.put key e.2 r.2)

theorem fillEntries_eq (d : Draft) (n : Nat) :
    d.fillEntries n =
      (d.graph.merged n).bind fun g => (g.entries n).foldlM gather ({ d with graph := g }, []) := rfl

end Document.Draft

/-! ## Entries -/

section Entries

open ChatRelay.Yaml.Document (Draft)
open ChatRelay.Yaml.Document.Draft (gather)

/-- The draft after the entries of a mapping were found. -/
def Entry.settle (n : Nat) (d : Draft) : List Entry → List Value → Draft
  | e :: es, v :: vs => settle (n + 2) ((d.put n (.leaf (.str e.name))).put (n + 1) (.leaf v)) es vs
  | _, _ => d

variable {d : Draft} {n m : Nat} {es : List Entry}

theorem Plain.tag_isCollection (s : String) : (Plain.tag s).isCollection = false := by
  have hline : ∀ s, (Plain.tagOfLine s).isCollection = false := fun s => by
    simp only [Plain.tagOfLine]
    repeat' split
    all_goals rfl
  unfold Plain.tag
  split
  · rfl
  · exact hline _

theorem Writing.tag_isCollection (v : Writing) : v.tag.isCollection = false := by
  simp only [tag, Graph.scalarTag, Graph.known, Option.filter_none, Option.map_none, Option.getD_none]
  split
  · cases Text.ofCodes? v.codes with
    | none => rfl
    | some s => exact Plain.tag_isCollection s
  · rfl

/-- A key comes to its text. -/
theorem visit_key [Host] {w : Entry} (hg : d.graph.get n = w.keyNode) (hn : d.get? n = none) :
    d.visit n = .ok (d.put n (.leaf (.str w.name))) := by
  rw [Draft.visit_scalar hg hn rfl, Tagged.value, ofCodes?_numbers]
  rfl

/-- What stands on the line of a key comes to its value. -/
theorem visit_value [Host] (value : Option (Nat × Writing)) (hg : d.graph.get n = Entry.valueNode value)
    (hn : d.get? n = none) : d.visit n = (Entry.valueAt n value).map fun v => d.put n (.leaf v) := by
  cases value with
  | none => rw [Draft.visit_scalar (show d.graph.get n = .scalar .null [] from hg) hn rfl]; rfl
  | some v => exact Draft.visit_scalar hg hn v.2.tag_isCollection

theorem gather_key [Host] {w : Entry} {found : List (Value × Nat)} {k : Nat} (hn : n < d.size)
    (hg : d.graph.get n = w.keyNode) (hget : d.get? n = none)
    (hfresh : ∀ e ∈ found, Value.sameKey e.1 (.str w.name) = false) :
    gather (d, found) (n, k) =
      ((d.put n (.leaf (.str w.name))).visit k).map fun d => (d, found ++ [(.str w.name, k)]) := by
  have hkey : (d.put n (.leaf (.str w.name))).key n = .ok (.str w.name) := by
    simp [Draft.key, Draft.get?_put_self hn]
  have hput : Value.put (.str w.name) k found = found ++ [(.str w.name, k)] := by
    induction found with
    | nil => rfl
    | cons e found ih =>
      obtain ⟨x, y⟩ := e
      have hx : Value.sameKey x (.str w.name) = false := hfresh (x, y) List.mem_cons_self
      simp [Value.put, hx, ih fun e he => hfresh e (List.mem_cons_of_mem _ he)]
  simp only [gather, visit_key hg hget, hkey, hput, bind, Except.bind]
  cases (d.put n (.leaf (.str w.name))).visit k <;> rfl

theorem sameKey_str (a b : String) : Value.sameKey (.str a) (.str b) = (a == b) := rfl

theorem name_ne {e e' : Entry} (h : e.key.chars ≠ e'.key.chars) : (e.name == e'.name) = false := by
  simp only [Entry.name, beq_eq_false_iff_ne, ne_eq, String.ofList_inj]
  exact h

/-- The entries of a mapping are found one after the other. -/
theorem gather_entries [Host] (found : List (Value × Nat)) (hg : d.graph.Stands n (es.flatMap Entry.nodes))
    (hsize : d.size = d.graph.nodes.size) (hfree : ∀ m, n ≤ m → m < n + 2 * es.length → d.get? m = none)
    (hd : (es.map fun e => e.key.chars).Nodup)
    (hfresh : ∀ e ∈ es, ∀ p ∈ found, Value.sameKey p.1 (.str e.name) = false) :
    (Entry.pairs n es).foldlM gather (d, found) =
      (Entry.values n es).map fun vs => (Entry.settle n d es vs, found ++ Entry.table n es) := by
  induction es generalizing n d found with
  | nil => simp [Entry.pairs, Entry.values, Entry.settle, Entry.table, Except.map, pure, Except.pure]
  | cons e es ih =>
    rw [List.flatMap_cons] at hg
    have hkey := hg.left.head
    have hvalue := hg.left.tail.head
    have hlen : (e :: es).length = es.length + 1 := rfl
    have hgather := gather_key (k := n + 1) (by rw [hsize]; exact hkey.2) hkey.1 (hfree n (Nat.le_refl _) (by omega))
      (hfresh e List.mem_cons_self)
    rw [visit_value _ (by exact hvalue.1) (by
      rw [Draft.get?_put_of_ne (Nat.succ_ne_self n).symm]
      exact hfree (n + 1) (by omega) (by omega))] at hgather
    rw [Entry.pairs, List.foldlM_cons, hgather, Entry.values]
    cases hv : Entry.valueAt (n + 1) e.value with
    | error f => rfl
    | ok v =>
      rw [List.map_cons, List.nodup_cons] at hd
      have hih := ih (n := n + 2) (d := (d.put n (.leaf (.str e.name))).put (n + 1) (.leaf v))
        (found ++ [(.str e.name, n + 1)]) hg.right (by simpa using hsize)
        (fun m h1 h2 => by
          rw [Draft.get?_put_of_ne (by omega), Draft.get?_put_of_ne (by omega)]
          exact hfree m (by omega) (by omega))
        hd.2
        (fun x hx p hp => by
          rcases List.mem_append.mp hp with hp | hp
          · exact hfresh x (List.mem_cons_of_mem _ hx) p hp
          · rw [List.mem_singleton] at hp
            rw [hp, sameKey_str]
            exact name_ne fun he => hd.1 (he ▸ List.mem_map_of_mem hx))
      simp only [Except.map, bind, Except.bind] at hih ⊢
      rw [hih]
      cases Entry.values (n + 2) es with
      | error f => rfl
      | ok vs => simp [Entry.settle, Entry.table, pure, Except.pure]

theorem tags_of_pairs {g : Graph} (hg : g.Stands n (es.flatMap Entry.nodes)) :
    ∀ e ∈ Entry.pairs n es, (g.get e.1).tag = .str := by
  induction es generalizing n with
  | nil => intro e he; cases he
  | cons x es ih =>
    rw [List.flatMap_cons] at hg
    intro e he
    rcases List.mem_cons.mp he with rfl | he
    · rw [hg.left.head.1]
      rfl
    · exact ih hg.right e he

theorem settle_graph (n : Nat) (d : Draft) (es : List Entry) (vs : List Value) :
    (Entry.settle n d es vs).graph = d.graph ∧ (Entry.settle n d es vs).queue = d.queue ∧
      (Entry.settle n d es vs).size = d.size := by
  induction es generalizing n d vs with
  | nil => exact ⟨rfl, rfl, rfl⟩
  | cons e es ih =>
    cases vs with
    | nil => exact ⟨rfl, rfl, rfl⟩
    | cons v vs => simpa [Entry.settle] using ih (n + 2) ((d.put n _).put (n + 1) _) vs

/-- Only the nodes of the entries are touched. -/
theorem settle_get? (vs : List Value) (h : m < n ∨ n + 2 * es.length ≤ m) :
    (Entry.settle n d es vs).get? m = d.get? m := by
  induction es generalizing n d vs with
  | nil => rfl
  | cons e es ih =>
    cases vs with
    | nil => rfl
    | cons v vs =>
      rw [List.length_cons] at h
      rw [Entry.settle, ih _ (by omega), Draft.get?_put_of_ne (by omega), Draft.get?_put_of_ne (by omega)]

/-- A mapping comes to its entries. -/
theorem fill_entries [Host] (hm : d.graph.get m = .mapping .map (Entry.pairs n es))
    (hg : d.graph.Stands n (es.flatMap Entry.nodes)) (hsize : d.size = d.graph.nodes.size)
    (hfree : ∀ m, n ≤ m → m < n + 2 * es.length → d.get? m = none) (hd : (es.map fun e => e.key.chars).Nodup) :
    d.fill m = (Entry.values n es).map fun vs => (Entry.settle n d es vs).put m (.map (Entry.table n es)) := by
  have hmerged := Graph.merged_of_texts hm (tags_of_pairs hg)
  have hentries : d.graph.entries m = Entry.pairs n es := by simp [Graph.entries, hm]
  have hread : d.fillEntries m = (Entry.values n es).map fun vs => (Entry.settle n d es vs, Entry.table n es) := by
    rw [Draft.fillEntries_eq, hmerged]
    simp only [Except.bind, hentries]
    rw [gather_entries (d := d) [] hg hsize hfree hd (by simp)]
    simp
  simp only [Draft.fill, hm, Node.tag, hread]
  cases Entry.values n es <;> rfl

end Entries

/-! ## Sections -/

section Sections

open ChatRelay.Yaml.Document (Draft)
open ChatRelay.Yaml.Document.Draft (gather)

namespace Section

/-- The mappings of the sections whose nodes begin at a number, as far as they have entries. -/
def queue (n : Nat) : List Section → List Nat
  | [] => []
  | s :: ss => (if s.entries.isEmpty then [] else [n + 1]) ++ queue (n + 2 + 2 * s.entries.length) ss

/-- The draft after a section was filled. -/
def filled (n : Nat) (d : Draft) (s : Section) (vs : List Value) : Draft :=
  if s.entries.isEmpty then d
  else
    (Entry.settle (n + 2) { d with queue := d.queue.tail } s.entries vs).put (n + 1)
      (.map (Entry.table (n + 2) s.entries))

/-- The draft after sections were filled. -/
def settle (n : Nat) (d : Draft) : List Section → List (List Value) → Draft
  | s :: ss, vs :: vss => settle (n + 2 + 2 * s.entries.length) (filled n d s vs) ss vss
  | _, _ => d

/-- Nothing is known yet of the entries of sections. -/
def Unread (n : Nat) (d : Draft) : List Section → Prop
  | [] => True
  | s :: ss =>
    (∀ m, n + 2 ≤ m → m < n + 2 + 2 * s.entries.length → d.get? m = none) ∧
      Unread (n + 2 + 2 * s.entries.length) d ss

end Section

variable {d d' : Draft} {n m : Nat} {ss : List Section}

theorem Section.Unread.congr (h : Section.Unread n d ss) (he : ∀ m, n + 2 ≤ m → d'.get? m = d.get? m) :
    Section.Unread n d' ss := by
  induction ss generalizing n with
  | nil => trivial
  | cons s ss ih =>
    exact ⟨fun m h1 h2 => (he m h1).trans (h.1 m h1 h2), ih h.2 fun m h1 => he m (by omega)⟩

theorem filled_get? {s : Section} {vs : List Value} (h : m ≤ n ∨ n + 2 + 2 * s.entries.length ≤ m) :
    (Section.filled n d s vs).get? m = d.get? m := by
  unfold Section.filled
  split
  · rfl
  · rw [Draft.get?_put_of_ne (by omega), settle_get? vs (by omega)]
    rfl

theorem filled_graph {s : Section} {vs : List Value} :
    (Section.filled n d s vs).graph = d.graph ∧ (Section.filled n d s vs).size = d.size := by
  unfold Section.filled
  split
  · exact ⟨rfl, rfl⟩
  · have := settle_graph (n + 2) { d with queue := d.queue.tail } s.entries vs
    exact ⟨this.1, by rw [Draft.size_put]; exact this.2.2⟩

theorem stands_section {g : Graph} {s : Section} (h : g.Stands n (Section.nodes n (s :: ss))) :
    g.Stands n (s.heading.keyNode :: Section.bodyNodes (n + 1) s.entries) ∧
      g.Stands (n + 2 + 2 * s.entries.length) (Section.nodes (n + 2 + 2 * s.entries.length) ss) := by
  refine ⟨h.left, ?_⟩
  have := h.right
  rwa [List.length_cons, Graph.length_bodyNodes,
    show n + (1 + 2 * s.entries.length + 1) = n + 2 + 2 * s.entries.length by omega] at this

theorem queue_filled {s : Section} (vs : List Value) (hes : s.entries ≠ []) :
    (Section.filled n d s vs).queue = d.queue.tail := by
  rw [Section.filled, if_neg (by simpa using hes), Draft.queue_put]
  exact (settle_graph _ _ _ _).2.1

/-- A section with entries is filled when it is the first to be. -/
theorem fillAll_filled [Host] {s : Section} (fuel : Nat) (hes : s.entries ≠ [])
    (hg : d.graph.Stands n (s.heading.keyNode :: Section.bodyNodes (n + 1) s.entries))
    (hsize : d.size = d.graph.nodes.size) (hq : d.queue.head? = some (n + 1))
    (hfree : ∀ m, n + 2 ≤ m → m < n + 2 + 2 * s.entries.length → d.get? m = none) :
    d.fillAll (fuel + 1) =
      (Entry.values (n + 2) s.entries).bind fun vs => (Section.filled n d s vs).fillAll fuel := by
  obtain ⟨e, es, he⟩ := List.exists_cons_of_ne_nil hes
  have hbody : Section.bodyNodes (n + 1) s.entries =
      .mapping .map (Entry.pairs (n + 2) s.entries) :: s.entries.flatMap Entry.nodes := by
    rw [he]
    rfl
  obtain ⟨queue, hq⟩ := List.head?_eq_some_iff.mp hq
  rw [hbody] at hg
  have hfill := fill_entries (d := { d with queue := queue }) hg.tail.head.1 hg.tail.tail hsize hfree s.distinct
  rw [Draft.fillAll, hq]
  simp only [hfill]
  cases Entry.values (n + 2) s.entries with
  | error f => rfl
  | ok vs => simp [Except.map, Except.bind, bind, Section.filled, hes, hq]

/-- The sections are filled one after the other. -/
theorem fillAll_sections [Host] (fuel : Nat) (hg : d.graph.Stands n (Section.nodes n ss))
    (hsize : d.size = d.graph.nodes.size) (hq : d.queue = Section.queue n ss) (hu : Section.Unread n d ss)
    (hfuel : (Section.queue n ss).length ≤ fuel) :
    d.fillAll fuel = (Section.values n ss).map fun vss => Section.settle n d ss vss := by
  induction ss generalizing n d fuel with
  | nil =>
    have hq : d.queue = [] := hq
    cases fuel <;> simp [Draft.fillAll, hq, Section.values, Section.settle, Except.map]
  | cons s ss ih =>
    obtain ⟨hs, hss⟩ := stands_section hg
    rcases Decidable.em (s.entries = []) with hes | hes
    · -- Nothing is queued for a section without entries.
      have hq' : d.queue = Section.queue (n + 2 + 2 * s.entries.length) ss := by simpa [Section.queue, hes] using hq
      have hfuel' : (Section.queue (n + 2 + 2 * s.entries.length) ss).length ≤ fuel := by
        simpa [Section.queue, hes] using hfuel
      have hvalues : Entry.values (n + 2) s.entries = .ok [] := by rw [hes]; rfl
      have hfilled : ∀ vs, Section.filled n d s vs = d := fun vs => by simp [Section.filled, hes]
      rw [ih fuel hss hsize hq' hu.2 hfuel', Section.values, hvalues]
      cases Section.values (n + 2 + 2 * s.entries.length) ss with
      | error f => rfl
      | ok vss => simp [Except.map, bind, Except.bind, pure, Except.pure, Section.settle, hfilled]
    · have hqueue : Section.queue n (s :: ss) = (n + 1) :: Section.queue (n + 2 + 2 * s.entries.length) ss := by
        simp [Section.queue, hes]
      rw [hqueue] at hq hfuel
      obtain ⟨fuel, rfl⟩ : ∃ k, fuel = k + 1 := ⟨fuel - 1, by rw [List.length_cons] at hfuel; omega⟩
      rw [fillAll_filled fuel hes hs hsize (by rw [hq]; rfl) hu.1, Section.values]
      cases Entry.values (n + 2) s.entries with
      | error f => rfl
      | ok vs =>
        have hih := ih (d := Section.filled n d s vs) fuel (by rw [filled_graph.1]; exact hss)
          (by rw [filled_graph.1, filled_graph.2]; exact hsize) (by rw [queue_filled vs hes, hq]; rfl)
          (hu.2.congr fun m h => filled_get? (by omega)) (by simpa using hfuel)
        simp only [bind, Except.bind, hih]
        cases Section.values (n + 2 + 2 * s.entries.length) ss with
        | error f => rfl
        | ok vss => rfl

/-- The draft after a section was found. -/
def Section.placed (n : Nat) (d : Draft) (s : Section) : Draft :=
  let d := d.put n (.leaf (.str s.heading.name))
  if s.entries.isEmpty then d.put (n + 1) (.leaf .null)
  else { d.put (n + 1) (.map []) with queue := d.queue ++ [n + 1] }

/-- The draft after sections were found. -/
def Section.place (n : Nat) (d : Draft) : List Section → Draft
  | [] => d
  | s :: ss => place (n + 2 + 2 * s.entries.length) (placed n d s) ss

theorem placed_get? {s : Section} (h : m < n ∨ n + 2 ≤ m) : (Section.placed n d s).get? m = d.get? m := by
  unfold Section.placed
  split
  · rw [Draft.get?_put_of_ne (by omega), Draft.get?_put_of_ne (by omega)]
  · exact (Draft.get?_put_of_ne (by omega)).trans (Draft.get?_put_of_ne (by omega))

theorem placed_graph {s : Section} :
    (Section.placed n d s).graph = d.graph ∧ (Section.placed n d s).size = d.size ∧
      (Section.placed n d s).queue = d.queue ++ if s.entries.isEmpty then [] else [n + 1] := by
  unfold Section.placed
  split
  · exact ⟨rfl, by simp, by simp⟩
  · exact ⟨rfl, (Draft.size_put (n := n + 1)).trans Draft.size_put, by simp⟩

/-- One section is found. -/
theorem gather_section [Host] {s : Section} {found : List (Value × Nat)}
    (hg : d.graph.Stands n (s.heading.keyNode :: Section.bodyNodes (n + 1) s.entries))
    (hsize : d.size = d.graph.nodes.size) (hn : d.get? n = none) (hn' : d.get? (n + 1) = none)
    (hfresh : ∀ p ∈ found, Value.sameKey p.1 (.str s.heading.name) = false) :
    gather (d, found) (n, n + 1) = .ok (Section.placed n d s, found ++ [(.str s.heading.name, n + 1)]) := by
  have hget : (d.put n (.leaf (.str s.heading.name))).get? (n + 1) = none := by
    rw [Draft.get?_put_of_ne (Nat.succ_ne_self n).symm]
    exact hn'
  rw [gather_key (k := n + 1) (by rw [hsize]; exact hg.head.2) hg.head.1 hn hfresh]
  have hbody := hg.tail
  unfold Section.placed
  cases hes : s.entries with
  | nil =>
    rw [hes] at hbody
    rw [visit_value (d := d.put n _) none hbody.head.1 hget]
    rfl
  | cons e es =>
    rw [hes] at hbody
    rw [Draft.visit_mapping (d := d.put n _) hbody.head.1 hget]
    rfl

/-- The sections are found one after the other. -/
theorem gather_sections [Host] (found : List (Value × Nat)) (hg : d.graph.Stands n (Section.nodes n ss))
    (hsize : d.size = d.graph.nodes.size) (hfree : ∀ m, n ≤ m → d.get? m = none) (hd : (ss.map Section.name).Nodup)
    (hfresh : ∀ s ∈ ss, ∀ p ∈ found, Value.sameKey p.1 (.str s.heading.name) = false) :
    (Section.pairs n ss).foldlM gather (d, found) = .ok (Section.place n d ss, found ++ Section.table n ss) := by
  induction ss generalizing n d found with
  | nil => simp [Section.pairs, Section.place, Section.table, pure, Except.pure]
  | cons s ss ih =>
    obtain ⟨hs, hss⟩ := stands_section hg
    rw [List.map_cons, List.nodup_cons] at hd
    rw [Section.pairs, List.foldlM_cons, gather_section hs hsize (hfree n (Nat.le_refl _))
      (hfree (n + 1) (Nat.le_succ _)) (hfresh s List.mem_cons_self)]
    have hih := ih (n := n + 2 + 2 * s.entries.length) (d := Section.placed n d s)
      (found ++ [(.str s.heading.name, n + 1)]) (by rw [placed_graph.1]; exact hss)
      (by rw [placed_graph.1, placed_graph.2.1]; exact hsize)
      (fun m h => by rw [placed_get? (by omega)]; exact hfree m (by omega)) hd.2
      (fun x hx p hp => by
        rcases List.mem_append.mp hp with hp | hp
        · exact hfresh x (List.mem_cons_of_mem _ hx) p hp
        · rw [List.mem_singleton] at hp
          rw [hp, sameKey_str]
          exact name_ne fun he => hd.1 (List.mem_map.mpr ⟨x, hx, he.symm⟩))
    simp only [bind, Except.bind, hih]
    simp [Section.place, Section.table]

theorem place_get? (h : m < n) : (Section.place n d ss).get? m = d.get? m := by
  induction ss generalizing n d with
  | nil => rfl
  | cons s ss ih => rw [Section.place, ih (by omega), placed_get? (.inl h)]

theorem place_graph (n : Nat) (d : Draft) (ss : List Section) :
    (Section.place n d ss).graph = d.graph ∧ (Section.place n d ss).size = d.size ∧
      (Section.place n d ss).queue = d.queue ++ Section.queue n ss := by
  induction ss generalizing n d with
  | nil => exact ⟨rfl, rfl, by simp [Section.place, Section.queue]⟩
  | cons s ss ih =>
    obtain ⟨h1, h2, h3⟩ := ih (n + 2 + 2 * s.entries.length) (Section.placed n d s)
    obtain ⟨g1, g2, g3⟩ := placed_graph (n := n) (d := d) (s := s)
    exact ⟨h1.trans g1, h2.trans g2, by rw [Section.place, h3, g3, Section.queue, List.append_assoc]⟩

/-- The entries of sections are not read while the sections are found. -/
theorem place_unread (hfree : ∀ m, n ≤ m → d.get? m = none) : Section.Unread n (Section.place n d ss) ss := by
  induction ss generalizing n d with
  | nil => trivial
  | cons s ss ih =>
    refine ⟨fun m h1 h2 => ?_, ih fun m h => ?_⟩
    · rw [Section.place, place_get? h2, placed_get? (by omega)]
      exact hfree m (by omega)
    · rw [placed_get? (by omega)]
      exact hfree m (by omega)

theorem length_queue (n : Nat) (ss : List Section) : (Section.queue n ss).length ≤ (Section.nodes n ss).length := by
  induction ss generalizing n with
  | nil => exact Nat.le_refl _
  | cons s ss ih =>
    have := ih (n + 2 + 2 * s.entries.length)
    simp only [Section.queue, Section.nodes, List.length_append, List.length_cons, Graph.length_bodyNodes]
    split <;> simp only [List.length_nil, List.length_cons] <;> omega

theorem tags_of_sections {g : Graph} (hg : g.Stands n (Section.nodes n ss)) :
    ∀ e ∈ Section.pairs n ss, (g.get e.1).tag = .str := by
  induction ss generalizing n with
  | nil => intro e he; cases he
  | cons s ss ih =>
    obtain ⟨hs, hss⟩ := stands_section hg
    intro e he
    rcases List.mem_cons.mp he with rfl | he
    · rw [hs.head.1]
      rfl
    · exact ih hss e he

end Sections

/-! ## Documents -/

namespace Sheet

open ChatRelay.Yaml.Document (Draft)

/-- The graph of a sheet. -/
def graph (f : Sheet) : Graph := ⟨f.nodes.toArray⟩

/-- The draft of a sheet before anything but its outermost mapping is found. -/
def begun (f : Sheet) : Draft :=
  { (Draft.mk f.graph (Array.replicate f.nodes.length none) []).put 0 (.map []) with queue := [] }

/-- The draft of a sheet whose sections are found. -/
def found (f : Sheet) : Draft := (Section.place 1 f.begun f.sections).put 0 (.map (Section.table 1 f.sections))

/-- The document of a sheet with values. -/
def document (f : Sheet) (vss : List (List Value)) : Document := ⟨(Section.settle 1 f.found f.sections vss).contents, 0⟩

variable (f : Sheet)

theorem stands_nodes : f.graph.Stands 0 f.nodes := Graph.stands_all _

theorem begun_free {m : Nat} (h : 1 ≤ m) : f.begun.get? m = none := by
  have hput : f.begun.get? m = (Draft.mk f.graph (Array.replicate f.nodes.length none) []).get? m :=
    Draft.get?_put_of_ne (by omega)
  rw [hput]
  simp only [Draft.get?, Array.getElem?_replicate]
  split <;> rfl

theorem begun_size : f.begun.size = f.begun.graph.nodes.size := by
  have : f.begun.size = (Draft.mk f.graph (Array.replicate f.nodes.length none) []).size := Draft.size_put
  rw [this]
  simp [Draft.size, begun, graph]

/-- The nodes of a sheet come to its document, if all values are values. -/
theorem ofGraph_graph [Host] : Document.ofGraph 0 f.graph = (Section.values 1 f.sections).map f.document := by
  have hroot := f.stands_nodes.head
  have hrest := f.stands_nodes.tail
  have hsize : f.graph.nodes.size = f.nodes.length := by simp [graph]
  have hvisit : (Draft.mk f.graph (Array.replicate f.nodes.length none) []).visit 0 =
      .ok { f.begun with queue := [0] } := by
    refine Draft.visit_mapping hroot.1 ?_
    simp only [Draft.get?, Array.getElem?_replicate]
    split <;> rfl
  have hmerged := Graph.merged_of_texts hroot.1 (tags_of_sections hrest)
  have hentries : f.graph.entries 0 = Section.pairs 1 f.sections := by simp [Graph.entries, hroot.1]
  have hgather := gather_sections (d := f.begun) [] hrest f.begun_size (fun m h => f.begun_free h) f.distinct
    (by simp)
  have hfill : f.begun.fill 0 = .ok f.found := by
    have hread : f.begun.fillEntries 0 = .ok (Section.place 1 f.begun f.sections, Section.table 1 f.sections) := by
      rw [Draft.fillEntries_eq, show f.begun.graph = f.graph from rfl, hmerged]
      simp only [Except.bind, hentries]
      exact hgather
    simp only [Draft.fill, show f.begun.graph = f.graph from rfl, hroot.1, Node.tag, hread]
    rfl
  obtain ⟨hgraph, hplaced, hqueue⟩ := place_graph 1 f.begun f.sections
  have hunread : Section.Unread 1 f.found f.sections :=
    (place_unread fun m h => f.begun_free h).congr fun m h => Draft.get?_put_of_ne (by omega)
  have hall := fillAll_sections (d := f.found) f.graph.nodes.size (by
      rw [show f.found.graph = f.graph from hgraph]
      exact hrest) (by
      rw [show f.found.graph = f.graph from hgraph, show f.found.size = _ from Draft.size_put, hplaced]
      exact f.begun_size) hqueue hunread (by
      have := length_queue 1 f.sections
      simp only [hsize, nodes, List.length_cons]
      omega)
  simp only [Document.ofGraph, hsize, hvisit, Except.bind, bind, Draft.fillAll]
  rw [hsize] at hall
  simp only [show { f.begun with queue := [] } = f.begun from rfl, hfill, hall]
  cases Section.values 1 f.sections <;> rfl

end Sheet

end ChatRelay.Yaml
