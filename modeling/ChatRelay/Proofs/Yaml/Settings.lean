import ChatRelay.Preferences.Apply
import ChatRelay.Proofs.Yaml.Contents

/-!
# What a sheet sets

- `Sheet.value?`, `Sheet.setting?`: what stands under the name of a section and a key, and the value that it is;
- `Sheet.Legible`: every value of a sheet is one (`Sheet.legible_iff`);
- `Sheet.ofText_text`: the text of a sheet is read exactly if the sheet is legible;
- `Sheet.setting?_document`: its document has the values that stand on the lines.

A value that is no number is told from all others by the number of its node. No conversion looks at that number
(`Value.unnumbered`).
-/

namespace ChatRelay.Yaml

/-! ## Numbers of nodes in values -/

namespace Value

/-- A value without the number of the node that it was read from. -/
def unnumbered : Value → Value
  | .nan _ => .nan 0
  | v => v

@[simp] theorem toText_unnumbered [Host] (v : Value) : v.unnumbered.toText = v.toText := by cases v <;> rfl

@[simp] theorem toInt_unnumbered [Host] (v : Value) : v.unnumbered.toInt = v.toInt := by cases v <;> rfl

@[simp] theorem toFloat_unnumbered (v : Value) : v.unnumbered.toFloat = v.toFloat := by cases v <;> rfl

@[simp] theorem toPath_unnumbered [Host] (v : Value) : v.unnumbered.toPath = v.toPath := by
  simp only [toPath, toText_unnumbered]

@[simp] theorem truthy_unnumbered (v : Value) : v.unnumbered.truthy = v.truthy := by cases v <;> rfl

end Value

theorem Tagged.float_unnumbered (n : Nat) (s : String) :
    (Tagged.float n s).map Value.unnumbered = Tagged.float 0 s := by
  unfold Tagged.float
  split
  · rfl
  · simp only
    split
    · rfl
    · cases Tagged.magnitudeFloat _ with
      | error f => rfl
      | ok x =>
        simp only [Except.map]
        split <;> rfl

/-- The number of a node shows in a value as nothing but the number of that node. -/
theorem Tagged.value_unnumbered [Host] (n : Nat) (tag : Tag) (codes : List Nat) :
    (Tagged.value n tag codes).map Value.unnumbered = Tagged.value 0 tag codes := by
  have hmap {α : Type} (r : Except Fault α) (k : α → Value) (hk : ∀ a, (k a).unnumbered = k a) :
      (r.map k).map Value.unnumbered = r.map k := by
    cases r with
    | error f => rfl
    | ok a => exact congrArg Except.ok (hk a)
  unfold Tagged.value
  cases Text.ofCodes? codes with
  | none => cases tag <;> rfl
  | some s =>
    cases tag with
    | bool => exact hmap _ _ fun _ => rfl
    | int => exact hmap _ _ fun _ => rfl
    | float => exact Tagged.float_unnumbered n s
    | binary =>
      simp only [Tagged.textValue, Tagged.binary]
      split
      · cases Text.Base64.decode? s.toList <;> rfl
      · rfl
    | timestamp =>
      simp only [Tagged.textValue, Tagged.timestamp]
      split
      · rename_i t _
        cases t with
        | date d => simp only [Tagged.calendarValue?]; split <;> rfl
        | time t => simp only [Tagged.calendarValue?]; split <;> rfl
      · rfl
    | _ => rfl

theorem Entry.valueAt_unnumbered [Host] (n : Nat) (value : Option (Nat × Writing)) :
    (Entry.valueAt n value).map Value.unnumbered = Entry.valueAt 0 value := by
  cases value with
  | none => rfl
  | some v => exact Tagged.value_unnumbered n v.2.tag v.2.codes

/-! ## Settings on the lines -/

/-- The entry of a key. -/
def Entry.find? (key : String) (es : List Entry) : Option Entry := es.find? (·.name == key)

/-- The section of a name. -/
def Section.find? (name : String) (ss : List Section) : Option Section := ss.find? (·.heading.name == name)

/-- What stands behind a key. -/
def Entry.value? (key : String) (es : List Entry) : Option (Option (Nat × Writing)) :=
  (Entry.find? key es).map Entry.value

/-- What stands behind a key in the section of a name. -/
def Section.value? (name key : String) (ss : List Section) : Option (Option (Nat × Writing)) :=
  (Section.find? name ss).bind fun s => Entry.value? key s.entries

namespace Sheet

/-- What stands behind a key in the section of a name. -/
def value? (f : Sheet) (section_ key : String) : Option (Option (Nat × Writing)) :=
  Section.value? section_ key f.sections

/-- The value of a key in the section of a name. -/
def setting? [Host] (f : Sheet) (section_ key : String) : Option Value :=
  (f.value? section_ key).bind fun value => (Entry.valueAt 0 value).toOption

/-- All values are values. -/
def Legible [Host] (f : Sheet) : Prop := ∀ s ∈ f.sections, ∀ e ∈ s.entries, ∃ v, Entry.valueAt 0 e.value = .ok v

end Sheet

/-! ## Values by name -/

section Values

variable {a b : String}

theorem Entry.value?_cons (e : Entry) (es : List Entry) :
    Entry.value? b (e :: es) = if e.name = b then some e.value else Entry.value? b es := by
  simp only [Entry.value?, Entry.find?, List.find?_cons]
  rcases Decidable.em (e.name = b) with h | h
  · simp [h]
  · simp [h, beq_eq_false_iff_ne.mpr h]

theorem Section.value?_cons (s : Section) (ss : List Section) :
    Section.value? a b (s :: ss) = if s.heading.name = a then Entry.value? b s.entries else Section.value? a b ss := by
  simp only [Section.value?, Section.find?, List.find?_cons]
  rcases Decidable.em (s.heading.name = a) with h | h
  · simp [h]
  · simp [h, beq_eq_false_iff_ne.mpr h]

/-- An entry changes what stands behind its own key. -/
theorem Entry.value?_middle (b : String) (post : List Entry) {pre : List Entry} {e e' : Entry}
    (hname : e'.name = e.name) (hpre : ∀ x ∈ pre, x.name ≠ e.name) :
    Entry.value? b (pre ++ e' :: post) = if b = e.name then some e'.value else Entry.value? b (pre ++ e :: post) := by
  induction pre with
  | nil =>
    simp only [List.nil_append, Entry.value?_cons, hname, @eq_comm _ b]
    split <;> rfl
  | cons x pre ih =>
    have hx := hpre x List.mem_cons_self
    rw [List.cons_append, List.cons_append, Entry.value?_cons, Entry.value?_cons,
      ih fun y hy => hpre y (List.mem_cons_of_mem _ hy)]
    rcases Decidable.em (x.name = b) with h | h
    · rw [if_pos h, if_pos h, if_neg fun hb => hx (h.trans hb)]
    · rw [if_neg h, if_neg h]

/-- A section changes what stands behind its own keys. -/
theorem Section.value?_middle (a b : String) (post : List Section) {pre : List Section} {s s' : Section}
    (hname : s'.heading.name = s.heading.name) (hpre : ∀ x ∈ pre, x.heading.name ≠ s.heading.name) :
    Section.value? a b (pre ++ s' :: post) =
      if a = s.heading.name then Entry.value? b s'.entries else Section.value? a b (pre ++ s :: post) := by
  induction pre with
  | nil =>
    simp only [List.nil_append, Section.value?_cons, hname, @eq_comm _ a]
    split <;> rfl
  | cons x pre ih =>
    have hx := hpre x List.mem_cons_self
    rw [List.cons_append, List.cons_append, Section.value?_cons, Section.value?_cons,
      ih fun y hy => hpre y (List.mem_cons_of_mem _ hy)]
    rcases Decidable.em (x.heading.name = a) with h | h
    · rw [if_pos h, if_pos h, if_neg fun ha => hx (h.trans ha)]
    · rw [if_neg h, if_neg h]

/-- A section at the end changes what stands behind its own keys. -/
theorem Section.value?_end (a b : String) {ss : List Section} {s : Section}
    (h : ∀ x ∈ ss, x.heading.name ≠ s.heading.name) :
    Section.value? a b (ss ++ [s]) =
      if a = s.heading.name then Entry.value? b s.entries else Section.value? a b ss := by
  induction ss with
  | nil =>
    simp only [List.nil_append, Section.value?_cons, @eq_comm _ a]
  | cons x ss ih =>
    have hx := h x List.mem_cons_self
    rw [List.cons_append, Section.value?_cons, Section.value?_cons, ih fun y hy => h y (List.mem_cons_of_mem _ hy)]
    rcases Decidable.em (x.heading.name = a) with hxa | hxa
    · rw [if_pos hxa, if_pos hxa, if_neg fun ha => hx (hxa.trans ha)]
    · rw [if_neg hxa, if_neg hxa]

/-- A sheet is legible exactly if all that stands behind its keys is. -/
theorem Sheet.legible_iff [Host] {f : Sheet} :
    f.Legible ↔ ∀ a b value, f.value? a b = some value → ∃ v, Entry.valueAt 0 value = .ok v := by
  constructor
  · intro h a b value hvalue
    simp only [Sheet.value?, Section.value?, Entry.value?, Option.bind_eq_some_iff, Option.map_eq_some_iff] at hvalue
    obtain ⟨s, hs, e, he, rfl⟩ := hvalue
    exact h s (List.mem_of_find?_eq_some hs) e (List.mem_of_find?_eq_some he)
  · intro h s hs e he
    -- Every entry is the first under its key, and every section the first of its name.
    obtain ⟨pre, post, hsections⟩ := List.append_of_mem hs
    obtain ⟨epre, epost, hentries⟩ := List.append_of_mem he
    have hfirst : ∀ x ∈ pre, x.heading.name ≠ s.heading.name := fun x hx hname => by
      have hd := f.distinct
      rw [hsections, List.map_append, List.nodup_append] at hd
      exact hd.2.2 _ (List.mem_map_of_mem hx) _ List.mem_cons_self (String.ofList_inj.mp hname)
    have hefirst : ∀ x ∈ epre, x.name ≠ e.name := fun x hx hname => by
      have hd := s.distinct
      rw [hentries, List.map_append, List.nodup_append] at hd
      exact hd.2.2 _ (List.mem_map_of_mem hx) _ List.mem_cons_self (String.ofList_inj.mp hname)
    refine h s.heading.name e.name e.value ?_
    rw [Sheet.value?, hsections, Section.value?_middle _ _ _ rfl hfirst, if_pos rfl, hentries,
      Entry.value?_middle _ _ rfl hefirst, if_pos rfl]

end Values

/-! ## Legible sheets -/

theorem Entry.valueAt_ok [Host] {n m : Nat} {value : Option (Nat × Writing)} (h : ∃ v, Entry.valueAt n value = .ok v) :
    ∃ v, Entry.valueAt m value = .ok v := by
  obtain ⟨v, hv⟩ := h
  have hm := Entry.valueAt_unnumbered m value
  rw [← Entry.valueAt_unnumbered n, hv] at hm
  cases hx : Entry.valueAt m value with
  | ok x => exact ⟨x, rfl⟩
  | error f =>
    rw [hx] at hm
    cases hm

theorem Entry.values_ok_iff [Host] {n : Nat} {es : List Entry} :
    (∃ vs, Entry.values n es = .ok vs) ↔ ∀ e ∈ es, ∃ v, Entry.valueAt 0 e.value = .ok v := by
  induction es generalizing n with
  | nil => exact ⟨fun _ _ he => absurd he List.not_mem_nil, fun _ => ⟨[], rfl⟩⟩
  | cons e es ih =>
    rw [List.forall_mem_cons, ← ih (n := n + 2)]
    constructor
    · rintro ⟨vs, h⟩
      rw [Entry.values] at h
      cases hv : Entry.valueAt (n + 1) e.value with
      | error f => simp [hv, bind, Except.bind] at h
      | ok v =>
        refine ⟨Entry.valueAt_ok ⟨v, hv⟩, ?_⟩
        cases hvs : Entry.values (n + 2) es with
        | error f => simp [hv, hvs, bind, Except.bind] at h
        | ok vs => exact ⟨vs, rfl⟩
    · rintro ⟨hv, vs, hvs⟩
      obtain ⟨v, hv⟩ := Entry.valueAt_ok (m := n + 1) hv
      exact ⟨v :: vs, by rw [Entry.values, hv, hvs]; rfl⟩

theorem Section.values_ok_iff [Host] {n : Nat} {ss : List Section} :
    (∃ vss, Section.values n ss = .ok vss) ↔
      ∀ s ∈ ss, ∀ e ∈ s.entries, ∃ v, Entry.valueAt 0 e.value = .ok v := by
  induction ss generalizing n with
  | nil => exact ⟨fun _ _ hs => absurd hs List.not_mem_nil, fun _ => ⟨[], rfl⟩⟩
  | cons s ss ih =>
    rw [List.forall_mem_cons, ← ih (n := n + 2 + 2 * s.entries.length), ← Entry.values_ok_iff (n := n + 2)]
    constructor
    · rintro ⟨vss, h⟩
      rw [Section.values] at h
      cases hv : Entry.values (n + 2) s.entries with
      | error f => simp [hv, bind, Except.bind] at h
      | ok vs =>
        refine ⟨⟨vs, rfl⟩, ?_⟩
        cases hvs : Section.values (n + 2 + 2 * s.entries.length) ss with
        | error f => simp [hv, hvs, bind, Except.bind] at h
        | ok vss => exact ⟨vss, rfl⟩
    · rintro ⟨⟨vs, hv⟩, vss, hvs⟩
      exact ⟨vs :: vss, by rw [Section.values, hv, hvs]; rfl⟩

/-! ## Settings of the document -/

section Lookups

open ChatRelay.Yaml.Document (Draft)

variable {d : Draft} {n m r : Nat} {es : List Entry} {ss : List Section}

/-- A node has the value of an entry. -/
def Entry.Known [Host] (doc : Document) (m : Nat) (e : Entry) : Prop :=
  ∃ v, Entry.valueAt m e.value = .ok v ∧ doc.get m = .leaf v

/-- A node has the entries of a section under their keys. -/
def Section.Known [Host] (doc : Document) (m : Nat) (s : Section) : Prop :=
  ∀ key, Option.Rel (Entry.Known doc) (doc.child? m key) (Entry.find? key s.entries)

/-- What is related stays so under a weaker relation. -/
theorem rel_mono {α β : Type} {p q : α → β → Prop} (h : ∀ a b, p a b → q a b) {x : Option α} {y : Option β}
    (hxy : Option.Rel p x y) : Option.Rel q x y := by
  cases hxy with
  | none => exact .none
  | some hab => exact .some (h _ _ hab)

theorem Entry.Known.congr [Host] {doc doc' : Document} {e : Entry} (h : Entry.Known doc m e)
    (he : doc'.get m = doc.get m) :
    Entry.Known doc' m e := by
  obtain ⟨v, hv, hm⟩ := h
  exact ⟨v, hv, he.trans hm⟩

theorem get_mk : (⟨d.contents, r⟩ : Document).get m = (d.get? m).getD (.leaf .null) := rfl

/-- Every key of the entries leads to the value of its entry. -/
theorem known_entries [Host] {vs : List Value} (hv : Entry.values n es = .ok vs) (hsize : n + 2 * es.length ≤ d.size)
    (key : String) :
    Option.Rel (fun m e => m < n + 2 * es.length ∧ n ≤ m ∧ Entry.Known ⟨(Entry.settle n d es vs).contents, r⟩ m e)
      (Value.find? key (Entry.table n es)) (Entry.find? key es) := by
  induction es generalizing n d vs with
  | nil => exact .none
  | cons e es ih =>
    rw [Entry.values] at hv
    cases hx : Entry.valueAt (n + 1) e.value with
    | error f => simp [hx, bind, Except.bind] at hv
    | ok x =>
      cases hxs : Entry.values (n + 2) es with
      | error f => simp [hx, hxs, bind, Except.bind] at hv
      | ok xs =>
        simp only [hx, hxs, bind, Except.bind, pure, Except.pure, Except.ok.injEq] at hv
        subst hv
        rw [List.length_cons] at hsize ⊢
        cases he : e.name == key with
        | true =>
          simp only [Entry.table, Value.find?, sameKey_str, Entry.find?, List.find?_cons, Entry.settle, he, if_true]
          refine .some ⟨by omega, by omega, x, hx, ?_⟩
          rw [get_mk, settle_get? xs (by omega), Draft.get?_put_self (by rw [Draft.size_put]; omega)]
          rfl
        | false =>
          simp only [Entry.table, Value.find?, sameKey_str, Entry.find?, List.find?_cons, Entry.settle, he,
            Bool.false_eq_true, if_false]
          have := ih (d := (d.put n (.leaf (.str e.name))).put (n + 1) (.leaf x)) hxs (by
            rw [Draft.size_put, Draft.size_put]
            omega)
          simp only [Entry.find?] at this
          exact rel_mono (fun _ _ h => ⟨by omega, by omega, h.2.2⟩) this

/-- The sections without entries are nothing. -/
def Section.Barren (n : Nat) (d : Draft) : List Section → Prop
  | [] => True
  | s :: ss =>
    (s.entries = [] → d.get? (n + 1) = some (.leaf .null)) ∧ Barren (n + 2 + 2 * s.entries.length) d ss

theorem Section.Barren.congr {d' : Draft} (h : Section.Barren n d ss) (he : ∀ m, n < m → d'.get? m = d.get? m) :
    Section.Barren n d' ss := by
  induction ss generalizing n with
  | nil => trivial
  | cons s ss ih => exact ⟨fun hs => (he _ (Nat.lt_succ_self n)).trans (h.1 hs), ih h.2 fun m hm => he m (by omega)⟩

/-- Only the nodes of the sections behind their first name are touched. -/
theorem section_settle_get? (vss : List (List Value)) (h : m ≤ n) :
    (Section.settle n d ss vss).get? m = d.get? m := by
  induction ss generalizing n d vss with
  | nil => rfl
  | cons s ss ih =>
    cases vss with
    | nil => rfl
    | cons vs vss => rw [Section.settle, ih vss (by omega), filled_get? (.inl h)]

/-- A section that was filled has its entries. -/
theorem known_filled [Host] {s : Section} {vs : List Value} (hv : Entry.values (n + 2) s.entries = .ok vs)
    (hsize : n + 2 + 2 * s.entries.length ≤ d.size) (hb : s.entries = [] → d.get? (n + 1) = some (.leaf .null))
    {doc : Document}
    (hdoc : ∀ m, m < n + 2 + 2 * s.entries.length → doc.get m = ((Section.filled n d s vs).get? m).getD (.leaf .null)) :
    Section.Known doc (n + 1) s := by
  intro key
  have hroot := hdoc (n + 1) (by omega)
  cases hes : s.entries with
  | nil =>
    simp only [Section.filled, hes, List.isEmpty_nil, if_true, hb hes, Option.getD_some] at hroot
    rw [Document.child?, hroot]
    exact .none
  | cons e es =>
    have hfilled : Section.filled n d s vs =
        (Entry.settle (n + 2) { d with queue := d.queue.tail } s.entries vs).put (n + 1)
          (.map (Entry.table (n + 2) s.entries)) := by
      simp [Section.filled, hes]
    have hin : n + 1 < (Entry.settle (n + 2) { d with queue := d.queue.tail } s.entries vs).size := by
      rw [(settle_graph _ _ _ _).2.2]
      exact Nat.lt_of_lt_of_le (by omega) hsize
    rw [hfilled, Draft.get?_put_self hin, Option.getD_some] at hroot
    rw [Document.child?, hroot, ← hes]
    refine rel_mono (fun i x h => h.2.2.congr ?_)
      (known_entries (d := { d with queue := d.queue.tail }) (r := 0) hv hsize key)
    rw [hdoc i h.1, hfilled, Draft.get?_put_of_ne (by omega), get_mk]

/-- Every name of the sections leads to the entries of its section. -/
theorem known_sections [Host] {vss : List (List Value)} (hv : Section.values n ss = .ok vss)
    (hsize : n + (Section.nodes n ss).length ≤ d.size) (hb : Section.Barren n d ss) (name : String) :
    Option.Rel (Section.Known ⟨(Section.settle n d ss vss).contents, r⟩) (Value.find? name (Section.table n ss))
      (Section.find? name ss) := by
  induction ss generalizing n d vss with
  | nil => exact .none
  | cons s ss ih =>
    rw [Section.values] at hv
    cases hx : Entry.values (n + 2) s.entries with
    | error f => simp [hx, bind, Except.bind] at hv
    | ok vs =>
      cases hxs : Section.values (n + 2 + 2 * s.entries.length) ss with
      | error f => simp [hx, hxs, bind, Except.bind] at hv
      | ok rest =>
        simp only [hx, hxs, bind, Except.bind, pure, Except.pure, Except.ok.injEq] at hv
        subst hv
        simp only [Section.nodes, List.length_append, List.length_cons, Graph.length_bodyNodes] at hsize
        cases he : s.heading.name == name with
        | true =>
          simp only [Section.table, Value.find?, sameKey_str, Section.find?, List.find?_cons, he, if_true]
          refine .some (known_filled (d := d) hx (by omega) hb.1 fun m hm => ?_)
          rw [get_mk, Section.settle, section_settle_get? rest (by omega)]
        | false =>
          simp only [Section.table, Value.find?, sameKey_str, Section.find?, List.find?_cons, he, Bool.false_eq_true,
            if_false]
          refine ih hxs ?_ (hb.2.congr fun m hm => filled_get? (.inr (by omega)))
          rw [filled_graph.2]
          omega

end Lookups

/-! ## Sheets -/

namespace Sheet

open ChatRelay.Yaml.Document (Draft)

variable (f : Sheet)

/-- The text of a sheet with sections is read if all its values are values. -/
theorem ofText_text [Host] (h : f.sections ≠ []) :
    Document.ofText f.text = (Section.values 1 f.sections).map f.document := by
  have htokens : Token.ofText? f.text.toList = some f.tokens := by
    rw [text, String.toList_ofList]
    exact f.tokens_of_text
  simp only [Document.ofText, htokens, f.graph_of_tokens h, bind, Except.bind]
  exact f.ofGraph_graph

/-- The text of a sheet without sections is no document. -/
theorem ofText_blank [Host] (h : f.sections = []) : Document.ofText f.text = .ok .nothing := by
  have htokens : Token.ofText? f.text.toList = some [.streamEnd] := by
    rw [text, String.toList_ofList, f.tokens_of_text, tokens, h]
  simp only [Document.ofText, htokens]
  rfl

theorem barren_place {n : Nat} {d : Draft} {ss : List Section} (hsize : n + (Section.nodes n ss).length ≤ d.size) :
    Section.Barren n (Section.place n d ss) ss := by
  induction ss generalizing n d with
  | nil => trivial
  | cons s ss ih =>
    simp only [Section.nodes, List.length_append, List.length_cons, Graph.length_bodyNodes] at hsize
    refine ⟨fun hs => ?_, ih (by rw [placed_graph.2.1]; omega)⟩
    rw [Section.place, place_get? (by omega), Section.placed, hs]
    exact Draft.get?_put_self (by rw [Draft.size_put]; omega)

variable {f} {vss : List (List Value)}

theorem get_root : (f.document vss).get 0 = .map (Section.table 1 f.sections) := by
  have hin : 0 < (Section.place 1 f.begun f.sections).size := by
    rw [(place_graph 1 f.begun f.sections).2.1, f.begun_size]
    exact f.stands_nodes.head.2
  rw [document, get_mk, section_settle_get? vss (by omega), found, Draft.get?_put_self hin]
  rfl

/-- A document has the values that stand on the lines of its sheet. -/
theorem setting?_document [Host] (hv : Section.values 1 f.sections = .ok vss) (section_ key : String) :
    (Document.setting? (f.document vss) section_ key).map Value.unnumbered = f.setting? section_ key := by
  have hsize : 1 + (Section.nodes 1 f.sections).length ≤ f.begun.size := by
    rw [f.begun_size, show f.begun.graph.nodes.size = f.nodes.length by simp [begun, graph], nodes, List.length_cons]
    omega
  have hbarren : Section.Barren 1 f.found f.sections :=
    (barren_place hsize).congr fun m hm => Draft.get?_put_of_ne (by omega)
  have hroot : (f.document vss).child? (f.document vss).root section_ =
      Value.find? section_ (Section.table 1 f.sections) := by
    rw [Document.child?, show (f.document vss).root = 0 from rfl, get_root]
  have hsections := known_sections (r := 0) hv (d := f.found) (by
    rw [found, Draft.size_put, (place_graph 1 f.begun f.sections).2.1]
    exact hsize) hbarren section_
  have hpath : Document.setting? (f.document vss) section_ key =
      (((f.document vss).child? (f.document vss).root section_).bind fun n => (f.document vss).child? n key).map
        (f.document vss).value := rfl
  rw [hpath, hroot, setting?, value?, Section.value?]
  generalize Value.find? section_ (Section.table 1 f.sections) = n, Section.find? section_ f.sections = s at hsections
  cases hsections with
  | none => rfl
  | @some n s hs =>
    have hentry : Option.Rel (Entry.Known (f.document vss)) ((f.document vss).child? n key)
        (Entry.find? key s.entries) := hs key
    simp only [Option.bind_some, Entry.value?]
    generalize (f.document vss).child? n key = m, Entry.find? key s.entries = e at hentry
    cases hentry with
    | none => rfl
    | @some m e he =>
      obtain ⟨v, hvalue, hget⟩ := he
      have hv₀ : Entry.valueAt 0 e.value = .ok v.unnumbered := by
        rw [← Entry.valueAt_unnumbered m, hvalue]
        rfl
      simp only [Option.map_some, Option.bind_some, hv₀, Document.value, Document.valueIn]
      rw [hget]
      rfl

end Sheet

end ChatRelay.Yaml
