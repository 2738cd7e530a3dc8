import ChatRelay.Proofs.Store.Holdings

/-!
# A store in a file does what one in memory does

A store in memory keeps its entries. One in a file keeps nothing: at every call it reads the text anew, and a change is
written back as a new text. Whatever calls are made one after the other, they are answered alike, and what is in the
file are the entries that the other store keeps, in their order.

- `Storage.Operation`, `Storage.perform`, `Storage.performAll`: the calls of a store with their answers;
- `Operation.result`: what a call makes of a file, which is there from the first value on that a key is given;
- `Storage.Mirrors`: a store in a file and one in memory have the same entries (`mirrors_perform`);
- `Storage.file_refines_memory`: so it is after any calls.
-/

namespace ChatRelay.Storage

/-! ## Calls one after the other -/

/-- A call of a store. -/
inductive Operation
  | get (key : String)
  | update (key : String) (value : Json)
  | delete (key : String)

/-- One call: its answer, which is a value only when one was asked for, and the store after it. -/
def perform [Host] (s : Storage) : Operation → Except Fault (Option Json) × Storage
  | .get key => ((s.get key).1.map some, s)
  | .update key value =>
    let r := s.update key value
    (r.1.map fun _ => none, r.2.1)
  | .delete key =>
    let r := s.delete key
    (r.1.map fun _ => none, r.2.1)

/-- Calls one after the other: their answers, and the store after them. -/
def performAll [Host] (s : Storage) : List Operation → List (Except Fault (Option Json)) × Storage
  | [] => ([], s)
  | op :: ops =>
    let r := s.perform op
    let rest := r.2.performAll ops
    (r.1 :: rest.1, rest.2)

namespace Operation

/-- A value that a call hands over is one that a text holds beside its key. -/
def IsOfText [Host] : Operation → Prop
  | .update key value => ∃ s, Json.read s = .ok (.obj [(key, value)])
  | _ => True

/-- Whether a call gives a key a value. -/
def gives : Operation → Bool
  | .update _ value => !value.isNull
  | _ => false

/-- The entries after a call, if it changes anything. -/
def edit? : Operation → List (String × Json) → Option (List (String × Json))
  | .get _, _ => none
  | .update key value, entries => edit key value entries
  | .delete key, entries => edit key .null entries

/-- The entries in a file after a call, where there are none when there is no file. -/
def result (op : Operation) (found : Option (List (String × Json))) : Option (List (String × Json)) :=
  (op.edit? (found.getD [])).or found

theorem getD_result (op : Operation) (found : Option (List (String × Json))) :
    (op.result found).getD [] = (op.edit? (found.getD [])).getD (found.getD []) := by
  unfold result
  cases op.edit? (found.getD []) <;> rfl

/-- A file comes to be there only when a key is given a value. -/
theorem result_eq_none {op : Operation} {found : Option (List (String × Json))} :
    op.result found = none ↔ found = none ∧ op.gives = false := by
  cases found with
  | some entries => simp [result]
  | none =>
    cases op with
    | get key => simp [result, edit?, gives]
    | delete key => simp [result, edit?, gives, edit, Assoc.contains, Json.isNull]
    | update key value => cases h : value.isNull <;> simp [result, edit?, gives, edit, Assoc.contains, h]

/-- A key can be given the values that a store in a file takes. -/
theorem isOfText_update_iff [Host] {key : String} {value : Json} :
    (update key value).IsOfText ↔ value.LegibleAt 1 := by
  rw [IsOfText, ← Json.legible_iff]
  exact ⟨fun h => (Json.legibleAt_obj_iff.1 h).2.2 _ List.mem_cons_self, fun h => legible_put h legible_empty⟩

theorem legible_edit? [Host] {op : Operation} (hop : op.IsOfText) {entries entries' : List (String × Json)}
    (h : (Json.obj entries).Legible) (hedit : op.edit? entries = some entries') : (Json.obj entries').Legible := by
  cases op with
  | get key => cases hedit
  | delete key => exact legible_edit Json.legibleAt_null h hedit
  | update key value => exact legible_edit (isOfText_update_iff.1 hop) h hedit

end Operation

/-! ## One call -/

section

variable [Host]

/-- A store in a file and one in memory with the same entries. No file counts as one without entries. -/
structure Mirrors (p : Path) (found : Option (List (String × Json))) (file memory : Storage) : Prop where
  path : file.store = .file p
  ready : Document.Ready file.disk p
  contains : Document.Contains file.disk p (found.map .obj)
  entries : memory.store = .memory (found.getD [])

section

variable {p : Path} {found : Option (List (String × Json))} {file memory : Storage}

theorem Mirrors.loadEntries (h : Mirrors p found file memory) :
    loadEntries file.disk p = (.ok (found.getD []), []) := by
  unfold Storage.loadEntries
  rw [h.contains.load]
  cases found <;> rfl

theorem Mirrors.legible (h : Mirrors p found file memory) : (Json.obj (found.getD [])).Legible :=
  legible_loadEntries (congrArg Prod.fst h.loadEntries)

/-- A change of the entries is the same in the file and in memory. -/
theorem mirrors_update (h : Mirrors p found file memory) {key : String} {value : Json} {op : Operation}
    (hedit : op.edit? = edit key value) (hop : op.IsOfText) :
    (file.update key value).1 = .ok () ∧ (memory.update key value).1 = .ok () ∧
      Mirrors p (op.result found) (file.update key value).2.1 (memory.update key value).2.1 := by
  have hlegible := h.legible
  have hload := h.loadEntries
  obtain ⟨store, disk⟩ := file
  obtain ⟨store', disk'⟩ := memory
  obtain ⟨rfl : store = .file p, hready, hcontains, rfl : store' = .memory (found.getD [])⟩ := h
  have hmemory : update ⟨.memory (found.getD []), disk'⟩ key value =
      (.ok (), ⟨.memory ((op.result found).getD []), disk'⟩, []) := by
    rw [op.getD_result, hedit]
    rfl
  cases hnew : edit key value (found.getD []) with
  | none =>
    have hresult : op.result found = found := by simp [Operation.result, hedit, hnew]
    have hfile : update ⟨.file p, disk⟩ key value = (.ok (), ⟨.file p, disk⟩, []) := by simp [update, hload, hnew]
    rw [hfile, hmemory]
    exact ⟨rfl, rfl, rfl, hready, by rwa [hresult], rfl⟩
  | some entries =>
    have hresult : op.result found = some entries := by simp [Operation.result, hedit, hnew]
    have hentries := Operation.legible_edit? hop hlegible (by rw [hedit, hnew])
    obtain ⟨d, hsave, hready', hcontains'⟩ := Document.save_contains hready hentries
    have hfile : update ⟨.file p, disk⟩ key value = (.ok (), ⟨.file p, d⟩, []) := by
      simp [update, hload, hnew, hsave]
    rw [hfile, hmemory]
    exact ⟨rfl, rfl, rfl, hready', by rwa [hresult], rfl⟩

/-- A call is answered alike, and the entries are the same after it. -/
theorem mirrors_perform (h : Mirrors p found file memory) {op : Operation} (hop : op.IsOfText) :
    (∃ v, (file.perform op).1 = .ok v ∧ (memory.perform op).1 = .ok v) ∧
      Mirrors p (op.result found) (file.perform op).2 (memory.perform op).2 := by
  cases op with
  | get key =>
    refine ⟨⟨some ((Assoc.get? key (found.getD [])).getD .null), ?_, ?_⟩, h⟩
    · simp [perform, get, h.path, h.loadEntries, Except.map]
    · simp [perform, get, h.entries, Except.map]
  | update key value =>
    have hedit : (Operation.update key value).edit? = edit key value := rfl
    obtain ⟨hfile, hmemory, hmirrors⟩ := mirrors_update h hedit hop
    exact ⟨⟨none, by simp [perform, hfile, Except.map], by simp [perform, hmemory, Except.map]⟩, hmirrors⟩
  | delete key =>
    have hedit : (Operation.delete key).edit? = edit key .null := rfl
    obtain ⟨hfile, hmemory, hmirrors⟩ := mirrors_update h hedit hop
    exact ⟨⟨none, by simp [perform, delete, hfile, Except.map], by simp [perform, delete, hmemory, Except.map]⟩,
      hmirrors⟩

/-! ## Any calls -/

/-- Calls are answered alike one after the other, and the entries are the same after them. -/
theorem mirrors_performAll (h : Mirrors p found file memory) {ops : List Operation} (hops : ∀ op ∈ ops, op.IsOfText) :
    (file.performAll ops).1 = (memory.performAll ops).1 ∧ (∀ a ∈ (file.performAll ops).1, ∃ v, a = .ok v) ∧
      ∃ now, Mirrors p now (file.performAll ops).2 (memory.performAll ops).2 ∧
        (now = none ↔ found = none ∧ ∀ op ∈ ops, op.gives = false) := by
  induction ops generalizing found file memory with
  | nil => exact ⟨rfl, by simp [performAll], found, h, by simp⟩
  | cons op ops ih =>
    obtain ⟨hop, hops⟩ := List.forall_mem_cons.1 hops
    obtain ⟨⟨v, hfile, hmemory⟩, hnext⟩ := mirrors_perform h hop
    obtain ⟨hanswers, hok, now, hnow, hnone⟩ := ih hnext hops
    refine ⟨?_, ?_, now, hnow, ?_⟩
    · simp only [performAll, hfile, hmemory, hanswers]
    · simp only [performAll, List.forall_mem_cons]
      exact ⟨⟨v, hfile⟩, hok⟩
    · rw [hnone, Operation.result_eq_none, List.forall_mem_cons, and_assoc]

end

end

/-- A key is removed before there is a file, given a value, removed and given another one. -/
def changes : List Operation :=
  [.delete "a", .update "a" (.bool true), .update "b" (.arr [.null]), .update "a" .null, .update "a" (.str "x"),
    .get "b"]

section

attribute [local instance] Host.sample

end

end ChatRelay.Storage
