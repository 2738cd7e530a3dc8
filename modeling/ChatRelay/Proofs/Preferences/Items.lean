import ChatRelay.Preferences.File
import Mathlib.Data.List.Basic

/-!
# The settings that are recognised

They are items in a list, which are taken over one after the other. The first one that cannot be converted ends it, and
is the fault of them all.

- `Raises`: a conversion whose fault leaves no preferences at all;
- `Item`, `items`: a recognised setting, and all of them in their order (`apply_eq_run`);
- `Ahead`: items whose preferences are as they were at first, as all are when a run begins;
- `Settles`, `faults`: the preferences with every item of some settings, and the faults of the items;
- `apply_settles`, `apply_faults`: settings without faults are all taken over, and those with some come to the first;
- `Unforgiven`: the settings whose faults leave no preferences at all (`unforgiven_iff`).
-/

namespace ChatRelay.Preferences

open Yaml (Value)

/-! ## Conversions that fail -/

section

variable {v : Value} {f : Fault}

/-- A conversion fails with a fault that is not forgiven. -/
def Raises {α : Type} (r : Except Fault α) (f : Fault) : Prop := r = .error f ∧ isForgiven f = false

@[simp] theorem raises_ok {α : Type} {a : α} : ¬Raises (.ok a) f := fun h => by cases h.1

@[simp] theorem raises_error {α : Type} {g : Fault} :
    Raises (.error g : Except Fault α) f ↔ f = g ∧ isForgiven g = false := by
  constructor
  · rintro ⟨h, hf⟩
    obtain rfl := Except.error.inj h
    exact ⟨rfl, hf⟩
  · rintro ⟨rfl, hf⟩
    exact ⟨rfl, hf⟩

@[simp] theorem raises_map {α β : Type} {r : Except Fault α} {g : α → β} : Raises (r.map g) f ↔ Raises r f := by
  cases r <;> simp [Except.map]

@[simp] theorem raises_numberIn {α : Type} {x : Option α} : ¬Raises (Yaml.Value.numberIn x) f := by
  cases x <;> simp [Yaml.Value.numberIn, isForgiven]

theorem raises_floatOfInt {n : Int} :
    Raises (Yaml.Value.floatOfInt n) f ↔ f = .tooLarge ∧ Binary64.ofInt? n = none := by
  unfold Yaml.Value.floatOfInt
  cases Binary64.ofInt? n <;> simp [isForgiven]

/-- Only an integer can be too large for a float. -/
theorem raises_delayOf : Raises (delayOf v) f ↔ f = .tooLarge ∧ ∃ n, v = .int n ∧ Binary64.ofInt? n = none := by
  have hsmall : ∀ b : Bool, Binary64.ofInt? (if b then 1 else 0) ≠ none := by decide +kernel
  rw [delayOf, raises_map]
  cases v with
  | bool b => simp [Value.toFloat, raises_floatOfInt, hsmall]
  | int n => simp [Value.toFloat, raises_floatOfInt]
  | _ => simp [Value.toFloat, isForgiven]

end

variable [Host]

/-! ## Items -/

/-- A setting that is recognised: where it stands, how it is converted, and the preference that it sets. -/
structure Item where
  Kind : Type
  entry : Settings → Option Value
  convert : Value → Except Fault Kind
  get : Preferences → Kind
  set : Preferences → Kind → Preferences

namespace Item

/-- What an item comes to under settings: what holds without it, if it is not there. -/
def value (i : Item) (s : Settings) : Except Fault i.Kind :=
  match i.entry s with
  | none => .ok (i.get default)
  | some v => i.convert v

/-- Why an item cannot be converted. -/
def fault? (i : Item) (s : Settings) : Option Fault :=
  match i.value s with
  | .ok _ => none
  | .error f => some f

/-- Takes over an item. -/
def take (i : Item) (s : Settings) : Applied → Applied := Preferences.take (i.entry s) i.convert i.set

/-- What an item sets is what it gets. -/
structure Lawful (i : Item) : Prop where
  get_set : ∀ p a, i.get (i.set p a) = a
  set_get : ∀ p, i.set p (i.get p) = p

/-- An item leaves what another one sets. -/
def Apart (i j : Item) : Prop := ∀ p a, j.get (i.set p a) = j.get p

/-- The host of the server. -/
def host : Item :=
  ⟨String, (· "server" "host"), Value.toText, (·.server.host), fun p host => { p with server.host := host }⟩

/-- The port of the server. -/
def port : Item := ⟨Int, (· "server" "port"), Value.toInt, (·.server.port), fun p n => { p with server.port := n }⟩

/-- The path of the snapshot. -/
def path : Item :=
  ⟨Path, (Settings.given? · "storage" "path"), Value.toPath, (·.storage.path),
    fun p path => { p with storage.path := path }⟩

/-- The key of the snapshot. -/
def stateKey : Item :=
  ⟨String, (Settings.given? · "storage" "state_key"), Value.toText, (·.storage.stateKey),
    fun p key => { p with storage.stateKey := key }⟩

/-- The name of the agent. -/
def name : Item :=
  ⟨String, (Settings.given? · "agent" "name"), Value.toText, (·.agent.name),
    fun p name => { p with agent.name := name }⟩

/-- The delay of the echo agent. -/
def chunkDelay : Item :=
  ⟨Binary64, (· "agent" "chunk_delay"), delayOf, (·.agent.chunkDelay), fun p x => { p with agent.chunkDelay := x }⟩

/-- The level of the logs. -/
def level : Item :=
  ⟨String, (Settings.given? · "logging" "level"), fun v => v.toText.map Text.upper, (·.logging.level),
    fun p level => { p with logging.level := level }⟩

/-- The file of the logs. -/
def file : Item :=
  ⟨Option Path, (· "logging" "file"), logFileOf, (·.logging.file), fun p file => { p with logging.file := file }⟩

end Item

/-- The settings that are recognised, in the order in which they are taken over. -/
def items : List Item := [.host, .port, .path, .stateKey, .name, .chunkDelay, .level, .file]

theorem lawful_items : ∀ i ∈ items, i.Lawful := by
  simp only [items, List.forall_mem_cons]
  refine ⟨?_, ?_, ?_, ?_, ?_, ?_, ?_, ?_, by simp⟩ <;> exact ⟨fun _ _ => rfl, fun _ => rfl⟩

theorem apart_items : items.Pairwise fun i j => i.Apart j ∧ j.Apart i := by
  simp [items, Item.Apart, Item.host, Item.port, Item.path, Item.stateKey, Item.name, Item.chunkDelay, Item.level,
    Item.file]

/-- Preferences that agree in all items are the same. -/
theorem eq_of_items {p q : Preferences} (h : ∀ i ∈ items, i.get p = i.get q) : p = q := by
  obtain ⟨⟨_, _⟩, ⟨_, _⟩, ⟨_, _⟩, ⟨_, _⟩⟩ := p
  obtain ⟨⟨_, _⟩, ⟨_, _⟩, ⟨_, _⟩, ⟨_, _⟩⟩ := q
  simp only [items, List.forall_mem_cons] at h
  simpa [Item.host, Item.port, Item.path, Item.stateKey, Item.name, Item.chunkDelay, Item.level, Item.file, and_assoc]
    using h

/-- Taking over items one after the other. -/
def run (s : Settings) (is : List Item) (r : Applied) : Applied := is.foldl (fun r i => i.take s r) r

omit [Host] in
theorem take_map {α β : Type} (entry : Option Value) (convert : Value → Except Fault α) (g : α → β)
    (set : Preferences → β → Preferences) :
    take entry (fun v => (convert v).map g) set = take entry convert fun p a => set p (g a) := by
  funext r
  obtain ⟨_ | f, p⟩ := r
  · cases entry with
    | none => rfl
    | some v =>
      simp only [take, Option.map_some]
      cases convert v <;> rfl
  · rfl

theorem apply_eq_run (p : Preferences) (s : Settings) : apply p s = run s items (none, p) := by
  have hlevel : Item.level.take s = take (s.given? "logging" "level") Value.toText fun p level =>
      { p with logging.level := Text.upper level } := take_map _ _ _ _
  simp only [run, items, List.foldl_cons, List.foldl_nil, hlevel]
  rfl

/-! ## All items -/

/-- Items that are ahead in a run: what they set is as it was at first. -/
structure Ahead (is : List Item) (p : Preferences) : Prop where
  lawful : ∀ i ∈ is, i.Lawful
  apart : is.Pairwise fun i j => i.Apart j ∧ j.Apart i
  unset : ∀ i ∈ is, i.get p = i.get default

theorem ahead_items : Ahead items default := ⟨lawful_items, apart_items, fun _ _ => rfl⟩

/-- The faults of items, in their order. -/
def faultsOf (s : Settings) (is : List Item) : List Fault := is.filterMap fun i => i.fault? s

section

variable {s : Settings} {i : Item} {is : List Item} {p : Preferences} {f : Fault} {a : i.Kind}

theorem Ahead.set (h : Ahead (i :: is) p) (a : i.Kind) : Ahead is (i.set p a) where
  lawful j hj := h.lawful j (List.mem_cons_of_mem _ hj)
  apart := (List.pairwise_cons.1 h.apart).2
  unset j hj := ((List.pairwise_cons.1 h.apart).1 j hj).1 p a |>.trans (h.unset j (List.mem_cons_of_mem _ hj))

/-- An item whose preference is as it was at first is set to what it comes to. -/
theorem take_eq (hi : i.Lawful) (hp : i.get p = i.get default) :
    i.take s (none, p) =
      match i.value s with
      | .ok a => (none, i.set p a)
      | .error f => (some f, p) := by
  unfold Item.take take Item.value
  cases i.entry s with
  | none =>
    have hkept : i.set p (i.get default) = p := by rw [← hp, hi.set_get]
    simp only [Option.map_none, hkept]
  | some v =>
    simp only [Option.map_some]
    cases i.convert v <;> rfl

omit [Host] in
/-- A fault ends a run. -/
theorem run_of_fault (s : Settings) (is : List Item) (f : Fault) (p : Preferences) :
    run s is (some f, p) = (some f, p) := by
  induction is with
  | nil => rfl
  | cons i is ih => exact ih

theorem run_cons (h : Ahead (i :: is) p) :
    run s (i :: is) (none, p) =
      match i.value s with
      | .ok a => run s is (none, i.set p a)
      | .error f => (some f, p) := by
  rw [run, List.foldl_cons, take_eq (h.lawful i List.mem_cons_self) (h.unset i List.mem_cons_self), ← run]
  cases i.value s with
  | ok a => rfl
  | error f => exact run_of_fault s is f p

theorem faultsOf_of_ok (h : i.value s = .ok a) : faultsOf s (i :: is) = faultsOf s is :=
  List.filterMap_cons_none (by simp [Item.fault?, h])

theorem faultsOf_of_error (h : i.value s = .error f) : faultsOf s (i :: is) = f :: faultsOf s is :=
  List.filterMap_cons_some (by simp [Item.fault?, h])

/-- A run ends with the first fault of its items. -/
theorem run_faults (h : Ahead is p) : (run s is (none, p)).1 = (faultsOf s is).head? := by
  induction is generalizing p with
  | nil => rfl
  | cons i is ih =>
    cases hvalue : i.value s with
    | error f => rw [run_cons h, hvalue, faultsOf_of_error hvalue, List.head?_cons]
    | ok a => rw [run_cons h, hvalue, faultsOf_of_ok hvalue, ih (h.set a)]

/-- A run without faults sets every item, and leaves what lies apart from all of them. -/
theorem run_settles (h : Ahead is p) (hfaults : faultsOf s is = []) :
    (∀ i ∈ is, i.value s = .ok (i.get (run s is (none, p)).2)) ∧
      ∀ j : Item, (∀ i ∈ is, i.Apart j) → j.get (run s is (none, p)).2 = j.get p := by
  induction is generalizing p with
  | nil => exact ⟨by simp, fun _ _ => rfl⟩
  | cons i is ih =>
    cases hvalue : i.value s with
    | error f => simp [faultsOf_of_error hvalue] at hfaults
    | ok a =>
      rw [faultsOf_of_ok hvalue] at hfaults
      obtain ⟨hset, hleft⟩ := ih (h.set a) hfaults
      have hrest : ∀ j ∈ is, j.Apart i := fun j hj => ((List.pairwise_cons.1 h.apart).1 j hj).2
      rw [run_cons h, hvalue]
      refine ⟨List.forall_mem_cons.2 ⟨?_, hset⟩, fun j hj => ?_⟩
      · rw [hvalue, hleft i hrest, (h.lawful i List.mem_cons_self).get_set]
      · obtain ⟨hij, hj⟩ := List.forall_mem_cons.1 hj
        rw [hleft j hj, hij]

/-- The faults of the settings that are recognised. -/
def faults (s : Settings) : List Fault := faultsOf s items

/-- The preferences have every item of some settings, and are the usual ones beside. -/
def Settles (s : Settings) (p : Preferences) : Prop := ∀ i ∈ items, i.value s = .ok (i.get p)

/-- Settings come to one thing only. -/
theorem Settles.unique {q : Preferences} (hp : Settles s p) (hq : Settles s q) : p = q :=
  eq_of_items fun i hi => Except.ok.inj ((hp i hi).symm.trans (hq i hi))

theorem faults_of_settles (h : Settles s p) : faults s = [] := by
  refine List.filterMap_eq_nil_iff.2 fun i hi => ?_
  simp [Item.fault?, h i hi]

/-- The first fault ends the taking over of settings. -/
theorem apply_faults (s : Settings) : (apply default s).1 = (faults s).head? := by
  rw [apply_eq_run]
  exact run_faults ahead_items

/-- Settings without faults are all taken over. -/
theorem apply_settles (h : faults s = []) : ∃ p, Settles s p ∧ apply default s = (none, p) := by
  have hend : (apply default s).1 = none := by rw [apply_faults, h, List.head?_nil]
  refine ⟨(apply default s).2, ?_, Prod.ext hend rfl⟩
  rw [apply_eq_run]
  exact (run_settles ahead_items h).1

end

/-! ## Faults that are not forgiven -/

/-- The settings that are made text: the host, and those of the others that count as given. -/
def Settings.spelled (s : Settings) : List Value :=
  [s "server" "host", s.given? "storage" "path", s.given? "storage" "state_key", s.given? "agent" "name",
    s.given? "logging" "level", s.given? "logging" "file"].filterMap id

/-- Whether a value is a text with halves of characters in it. -/
def isHalved : Value → Bool
  | .codes _ => true
  | _ => false

/-- A setting that is made text has halves of characters in it. -/
def Halved (s : Settings) : Prop := s.spelled.any isHalved = true

instance (s : Settings) : Decidable (Halved s) := inferInstanceAs (Decidable (_ = true))

/-- A value becomes no text, since it lies too deep in itself, or for half a character in it. -/
inductive Mute (v : Value) : Fault → Prop
  | deep : v.refusal? 0 = some .tooDeep → Mute v .tooDeep
  | halved {ns : List Nat} : v = .codes ns → Text.joinPairs? ns = none → Mute v .unpaired

/-- A text names the home directory of a user who is not known. -/
def NamesStranger (text : String) : Prop :=
  ∃ name rest, Path.ofString text = ⟨0, ("~" ++ name) :: rest⟩ ∧ name ≠ "" ∧ name.contains '\x00' = false ∧
    Host.homeOf name = none

/-- A setting whose fault is not forgiven: a port that is infinite, a delay that is too large an integer for a float, a
value that lies too deep to become text, and a path at the home of an unknown user. -/
inductive Unforgiven (s : Settings) : Fault → Prop
  | port {negative : Bool} : s "server" "port" = some (.float (.infinite negative)) → Unforgiven s .tooLarge
  | delay {n : Int} : s "agent" "chunk_delay" = some (.int n) → Binary64.ofInt? n = none → Unforgiven s .tooLarge
  | deep {v : Value} : v ∈ s.spelled → v.refusal? 0 = some .tooDeep → Unforgiven s .tooDeep
  | path {v : Value} {text : String} :
      s.given? "storage" "path" = some v ∨ s.given? "logging" "file" = some v → v.toText = .ok text →
        NamesStranger text → Unforgiven s .unknownHome

/-! ### Values that become no text -/

mutual

/-- A value is refused for its depth or for the digits of an integer. -/
theorem limit_of_refusal? : ∀ (v : Value) {depth : Nat} {f : Fault}, v.refusal? depth = some f →
    f = .tooDeep ∨ ∃ limit, f = .integerTooLong limit
  | .null, _, _, h => nomatch h
  | .bool _, _, _, h => nomatch h
  | .int n, _, _, h => .inr ((Host.limit_of_digitFault? h).imp fun _ hlimit => hlimit.2)
  | .float _, _, _, h => nomatch h
  | .nan _, _, _, h => nomatch h
  | .str _, _, _, h => nomatch h
  | .codes _, _, _, h => nomatch h
  | .bytes _, _, _, h => nomatch h
  | .date _, _, _, h => nomatch h
  | .time _, _, _, h => nomatch h
  | .loop _, _, _, h => nomatch h
  | .list items, _, _, h => by
    rcases Option.or_eq_some_iff.1 h with hdepth | ⟨-, hitems⟩
    · exact .inl (Host.eq_of_depthFault? hdepth)
    · exact limit_of_itemsRefusal? items hitems
  | .pair a b, _, _, h => by
    rcases Option.or_eq_some_iff.1 h with hdepth | ⟨-, hparts⟩
    · exact .inl (Host.eq_of_depthFault? hdepth)
    · rcases Option.or_eq_some_iff.1 hparts with ha | ⟨-, hb⟩
      · exact limit_of_refusal? a ha
      · exact limit_of_refusal? b hb
  | .set members, _, _, h => by
    rcases Option.or_eq_some_iff.1 h with hdepth | ⟨-, hmembers⟩
    · exact .inl (Host.eq_of_depthFault? hdepth)
    · exact limit_of_itemsRefusal? members hmembers
  | .map entries, _, _, h => by
    rcases Option.or_eq_some_iff.1 h with hdepth | ⟨-, hentries⟩
    · exact .inl (Host.eq_of_depthFault? hdepth)
    · exact limit_of_entriesRefusal? entries hentries

theorem limit_of_itemsRefusal? : ∀ (items : List Value) {depth : Nat} {f : Fault},
    Value.itemsRefusal? depth items = some f → f = .tooDeep ∨ ∃ limit, f = .integerTooLong limit
  | [], _, _, h => nomatch h
  | v :: items, _, _, h => by
    rcases Option.or_eq_some_iff.1 h with hv | ⟨-, hitems⟩
    · exact limit_of_refusal? v hv
    · exact limit_of_itemsRefusal? items hitems

theorem limit_of_entriesRefusal? : ∀ (entries : List (Value × Value)) {depth : Nat} {f : Fault},
    Value.entriesRefusal? depth entries = some f → f = .tooDeep ∨ ∃ limit, f = .integerTooLong limit
  | [], _, _, h => nomatch h
  | (k, v) :: entries, _, _, h => by
    rcases Option.or_eq_some_iff.1 h with hentry | ⟨-, hentries⟩
    · rcases Option.or_eq_some_iff.1 hentry with hk | ⟨-, hv⟩
      · exact limit_of_refusal? k hk
      · exact limit_of_refusal? v hv
    · exact limit_of_entriesRefusal? entries hentries

end

section

variable {v : Value} {f : Fault}

theorem mute_iff : Mute v f ↔
    f = .tooDeep ∧ v.refusal? 0 = some .tooDeep ∨ f = .unpaired ∧ ∃ ns, v = .codes ns ∧ Text.joinPairs? ns = none := by
  constructor
  · rintro (hdeep | ⟨rfl, hhalf⟩)
    · exact .inl ⟨rfl, hdeep⟩
    · exact .inr ⟨rfl, _, rfl, hhalf⟩
  · rintro (⟨rfl, hdeep⟩ | ⟨rfl, ns, rfl, hhalf⟩)
    · exact .deep hdeep
    · exact .halved rfl hhalf

/-- All other faults of a value that is made text are forgiven. -/
theorem raises_toText : Raises v.toText f ↔ Mute v f := by
  rw [mute_iff]
  unfold Value.toText
  split
  · next ns => cases hpairs : Text.joinPairs? ns <;> simp [Value.refusal?, hpairs, isForgiven]
  · next hcodes =>
    have hwhole : ¬∃ ns, v = .codes ns ∧ Text.joinPairs? ns = none := fun ⟨ns, hv, _⟩ => hcodes ns hv
    cases hrefused : v.refusal? 0 with
    | none => simp [hwhole]
    | some g => obtain rfl | ⟨limit, rfl⟩ := limit_of_refusal? v hrefused <;> simp [hwhole, isForgiven]

/-- Only an infinite number is too large for an integer. -/
theorem raises_toInt : Raises v.toInt f ↔ f = .tooLarge ∧ ∃ negative, v = .float (.infinite negative) := by
  cases v with
  | float x => cases x <;> simp [Value.toInt, Binary64.truncate?, isForgiven]
  | _ => simp [Value.toInt, isForgiven]

/-- Only a user who is not known has no home. -/
theorem raises_homeOf {name : String} : Raises (Path.homeOf name) f ↔
    f = .unknownHome ∧ name ≠ "" ∧ name.contains '\x00' = false ∧ Host.homeOf name = none := by
  unfold Path.homeOf
  split
  · next hempty => simp [hempty]
  · next hne =>
    split
    · next hnul => simp [hnul, isForgiven]
    · next hnul => cases hhome : Host.homeOf name <;> simp [hne, hnul, isForgiven]

/-- Only the home of a stranger cannot be found. -/
theorem raises_expandHome {text : String} :
    Raises (Path.ofString text).expandHome f ↔ f = .unknownHome ∧ NamesStranger text := by
  unfold NamesStranger Path.expandHome
  split
  · next first rest hslashes hparts =>
    have hpath : Path.ofString text = ⟨0, first :: rest⟩ := by rw [← hslashes, ← hparts]
    split
    · next cs hcs =>
      have hfirst : first = "~" ++ String.ofList cs := String.toList_inj.1 (by simp [hcs])
      simp [raises_homeOf, hpath, hfirst]
    · next htilde =>
      simp only [raises_ok, false_iff, not_and, not_exists, hpath]
      rintro - name rest' hname
      obtain ⟨rfl, -⟩ : first = "~" ++ name ∧ rest = rest' := by simpa using hname
      exact absurd (by simp) (htilde name.toList)
  · next hhome =>
    simp only [raises_ok, false_iff, not_and, not_exists]
    rintro - name rest hpath
    exact absurd (congrArg Path.parts hpath) (hhome _ rest (congrArg Path.slashes hpath))

/-- Only a value that becomes no text, and the home of a stranger, is no path. -/
theorem raises_toPath : Raises v.toPath f ↔
    Mute v f ∨ f = .unknownHome ∧ ∃ text, v.toText = .ok text ∧ NamesStranger text := by
  unfold Value.toPath
  cases htext : v.toText with
  | error g =>
    have hraises := raises_toText (v := v) (f := f)
    rw [htext] at hraises
    simpa [bind, Except.bind] using hraises
  | ok text =>
    have hmute : ¬Mute v f := by
      rw [← raises_toText, htext]
      exact raises_ok
    simpa [bind, Except.bind, hmute] using raises_expandHome

theorem raises_logFileOf : Raises (logFileOf v) f ↔
    v.truthy = true ∧ (Mute v f ∨ f = .unknownHome ∧ ∃ text, v.toText = .ok text ∧ NamesStranger text) := by
  unfold logFileOf
  split
  · next htruthy => simp [raises_toPath, htruthy]
  · next htruthy => simp [htruthy]

/-! ### Of all settings -/

variable {s : Settings}

theorem mem_faults : f ∈ faults s ↔ ∃ i ∈ items, ∃ v, i.entry s = some v ∧ i.convert v = .error f := by
  simp only [faults, faultsOf, List.mem_filterMap]
  refine exists_congr fun i => and_congr_right fun _ => ?_
  unfold Item.fault? Item.value
  cases i.entry s with
  | none => simp
  | some v => cases hv : i.convert v <;> simp [hv]

theorem exists_raises : f ∈ faults s ∧ isForgiven f = false ↔
    ∃ i ∈ items, ∃ v, i.entry s = some v ∧ Raises (i.convert v) f := by
  simp only [mem_faults, Raises]
  constructor
  · rintro ⟨⟨i, hi, v, hv, h⟩, hf⟩
    exact ⟨i, hi, v, hv, h, hf⟩
  · rintro ⟨i, hi, v, hv, h, hf⟩
    exact ⟨⟨i, hi, v, hv, h⟩, hf⟩

omit [Host] in
theorem given?_eq_some {a b : String} : s.given? a b = some v ↔ s a b = some v ∧ v.truthy = true := by
  rw [Settings.given?, Option.filter_eq_some_iff]

omit [Host] in
theorem mem_spelled : v ∈ s.spelled ↔ s "server" "host" = some v ∨ s.given? "storage" "path" = some v ∨
    s.given? "storage" "state_key" = some v ∨ s.given? "agent" "name" = some v ∨ s.given? "logging" "level" = some v ∨
    s.given? "logging" "file" = some v := by
  simp [Settings.spelled, eq_comm]

/-- Where no setting has halves of characters in it, one that becomes no text lies too deep. -/
theorem unforgiven_of_mute (hwhole : ¬Halved s) (hv : v ∈ s.spelled) (h : Mute v f) : Unforgiven s f := by
  cases h with
  | deep hdeep => exact .deep hv hdeep
  | halved hcodes _ =>
    obtain rfl := hcodes
    exact absurd (List.any_eq_true.2 ⟨_, hv, rfl⟩) hwhole

/-- The settings with a fault that is not forgiven are the port, the delay and those that are made text. -/
theorem unforgiven_iff (hwhole : ¬Halved s) : f ∈ faults s ∧ isForgiven f = false ↔ Unforgiven s f := by
  rw [exists_raises]
  simp only [items, List.exists_mem_cons_iff, Item.host, Item.port, Item.path, Item.stateKey, Item.name,
    Item.chunkDelay, Item.level, Item.file, raises_map, raises_toText, raises_toInt, raises_toPath, raises_delayOf,
    raises_logFileOf, List.not_mem_nil, exists_false, false_and, or_false]
  constructor
  · rintro (⟨v, hv, hmute⟩ | ⟨v, hv, rfl, negative, rfl⟩ | ⟨v, hv, hmute | ⟨rfl, text, htext, hhome⟩⟩ |
      ⟨v, hv, hmute⟩ | ⟨v, hv, hmute⟩ | ⟨v, hv, rfl, n, rfl, hlarge⟩ | ⟨v, hv, hmute⟩ |
      ⟨v, hv, htruthy, hmute | ⟨rfl, text, htext, hhome⟩⟩)
    · exact unforgiven_of_mute hwhole (mem_spelled.2 (by simp [hv])) hmute
    · exact .port hv
    · exact unforgiven_of_mute hwhole (mem_spelled.2 (by simp [hv])) hmute
    · exact .path (.inl hv) htext hhome
    · exact unforgiven_of_mute hwhole (mem_spelled.2 (by simp [hv])) hmute
    · exact unforgiven_of_mute hwhole (mem_spelled.2 (by simp [hv])) hmute
    · exact .delay hv hlarge
    · exact unforgiven_of_mute hwhole (mem_spelled.2 (by simp [hv])) hmute
    · exact unforgiven_of_mute hwhole (mem_spelled.2 (by simp [given?_eq_some.2 ⟨hv, htruthy⟩])) hmute
    · exact .path (.inr (given?_eq_some.2 ⟨hv, htruthy⟩)) htext hhome
  · intro h
    cases h with
    | port hv => exact .inr (.inl ⟨_, hv, rfl, _, rfl⟩)
    | delay hv hlarge => exact .inr (.inr (.inr (.inr (.inr (.inl ⟨_, hv, rfl, _, rfl, hlarge⟩)))))
    | deep hv hdeep =>
      have hmute := Mute.deep hdeep
      rcases mem_spelled.1 hv with hv | hv | hv | hv | hv | hv
      · exact .inl ⟨_, hv, hmute⟩
      · exact .inr (.inr (.inl ⟨_, hv, .inl hmute⟩))
      · exact .inr (.inr (.inr (.inl ⟨_, hv, hmute⟩)))
      · exact .inr (.inr (.inr (.inr (.inl ⟨_, hv, hmute⟩))))
      · exact .inr (.inr (.inr (.inr (.inr (.inr (.inl ⟨_, hv, hmute⟩))))))
      · obtain ⟨hv, htruthy⟩ := given?_eq_some.1 hv
        exact .inr (.inr (.inr (.inr (.inr (.inr (.inr ⟨_, hv, htruthy, .inl hmute⟩))))))
    | path hv htext hhome =>
      rcases hv with hv | hv
      · exact .inr (.inr (.inl ⟨_, hv, .inr ⟨rfl, _, htext, hhome⟩⟩))
      · obtain ⟨hv, htruthy⟩ := given?_eq_some.1 hv
        exact .inr (.inr (.inr (.inr (.inr (.inr (.inr ⟨_, hv, htruthy, .inr ⟨rfl, _, htext, hhome⟩⟩))))))

end

end ChatRelay.Preferences
