import ChatRelay.Proofs.Files.Path
import ChatRelay.Proofs.Json.Numerals
import ChatRelay.Proofs.Preferences.Items
import ChatRelay.Proofs.Text.Case

/-!
# Preferences that are shown and set again

Preferences that came from a document can be looked at as a JSON value. This value sets them again: every preference is
shown as a value that counts as given, or need not count, and that comes to the preference itself.

- `Yaml.Value.toText_ne_empty`: what counts as given has a text with something in it;
- `Item.Returns`: an item that is set by what is shown of it, as all eight are (`returns_items`);
- `apply_shown`: preferences that came from a document come from what is shown of them.
-/

namespace ChatRelay

namespace Yaml.Value

/-! ## Texts of values that count as given -/

theorem int_ne_empty (n : Int) : String.ofList (Json.writeInt n) ≠ "" := by
  obtain ⟨c, cs, hwritten⟩ : ∃ c cs, Json.writeInt n = c :: cs := by
    obtain ⟨c, cs, hdigits, -⟩ := Json.beginsWithDigit_toDigits n.natAbs
    unfold Json.writeInt
    split
    · exact ⟨_, _, rfl⟩
    · exact ⟨c, cs, hdigits⟩
  simp [hwritten]

theorem float_ne_empty (x : Binary64) : x.literal ≠ "" := by
  cases x with
  | nan => decide
  | infinite negative => cases negative <;> decide
  | finite negative x =>
    obtain ⟨c, cs, hmagnitude, -⟩ := Json.beginsWithDigit_magnitude x
    simp [Binary64.literal, Binary64.render, hmagnitude]

/-- Numbers of which there are some are characters of which there are some. -/
theorem joinPairs?_ne_nil {ns : List Nat} {cs : List Char} (h : ns ≠ []) (hcs : Text.joinPairs? ns = some cs) :
    cs ≠ [] := by
  unfold Text.joinPairs? at hcs
  split at hcs
  · exact absurd rfl h
  · split at hcs
    · cases hcs
    · simp [← Option.some.inj hcs]
  · split at hcs
    · obtain ⟨cs', -, rfl⟩ := Option.map_eq_some_iff.1 hcs
      exact List.cons_ne_nil _ _
    · split at hcs
      · cases hcs
      · obtain ⟨cs', -, rfl⟩ := Option.map_eq_some_iff.1 hcs
        exact List.cons_ne_nil _ _

/-- A value that counts as given is written with something. -/
theorem text_ne_empty {v : Value} (h : v.truthy = true) : v.text ≠ "" := by
  cases v with
  | null => cases h
  | bool b => cases b <;> decide
  | int n => exact int_ne_empty n
  | float x => exact float_ne_empty x
  | nan node => exact float_ne_empty .nan
  | str s => simpa [truthy, text] using h
  | codes ns => simp [text, literal, Text.literalOfCodes]
  | bytes bs => simp [text, literal, Text.literalOfBytes]
  | date d => simp [text, Date.text]
  | time t => simp [text, Time.text]
  | list items => simp [text, literal]
  | pair a b => simp [text, literal]
  | set members =>
    simp only [text, literal]
    split <;> simp
  | map entries => simp [text, literal]
  | loop isMap => cases isMap <;> decide

/-- A value that counts as given has a text with something in it. -/
theorem toText_ne_empty [Host] {v : Value} {t : String} (h : v.truthy = true) (ht : v.toText = .ok t) : t ≠ "" := by
  unfold toText at ht
  split at ht
  · next ns =>
    have hns : ns ≠ [] := by simpa [truthy] using h
    cases hpairs : Text.joinPairs? ns with
    | none => simp [hpairs] at ht
    | some cs =>
      obtain rfl : String.ofList cs = t := by simpa [hpairs] using ht
      simpa using joinPairs?_ne_nil hns hpairs
  · split at ht
    · cases ht
    · obtain rfl := Except.ok.inj ht
      exact text_ne_empty h

/-! ## Paths -/

/-- A path that a value comes to is normal, and has no home directory to be put in. -/
theorem toPath_eq_ok [Host] {v : Value} {p : Path} (h : v.toPath = .ok p) : p.Normal ∧ p.expandHome = .ok p := by
  unfold toPath at h
  cases htext : v.toText with
  | error f => simp [htext, bind, Except.bind] at h
  | ok t =>
    simp only [htext, bind, Except.bind] at h
    exact ⟨(Path.normal_ofString t).expandHome h, Path.expandHome_again h⟩

/-- Such a path is what its text comes to. -/
theorem toPath_toString [Host] {p : Path} (hnormal : p.Normal) (hhome : p.expandHome = .ok p) :
    (Value.str p.toString).toPath = .ok p := by
  have htext : (Value.str p.toString).toText = .ok p.toString := rfl
  rw [toPath, htext]
  exact (congrArg Path.expandHome (Path.ofString_toString hnormal)).trans hhome

end Yaml.Value

namespace Preferences

open Yaml (Value)

/-! ## What is shown -/

/-- The settings that are shown of preferences. -/
def shown (p : Preferences) : Settings := fun section_ key =>
  ((Value.ofJson (p.toJson (.float p.agent.chunkDelay))).get? section_).bind (Value.get? key)

/-- An item that comes to the same under what is shown of the preferences. -/
def Item.Returns [Host] (i : Item) : Prop := ∀ s p, i.value s = .ok (i.get p) → i.value (shown p) = .ok (i.get p)

/-- What an item comes to is what holds without it, or what its entry is converted to. -/
theorem Item.value_eq_ok [Host] {i : Item} {s : Settings} {a : i.Kind} (h : i.value s = .ok a) :
    a = i.get default ∨ ∃ v, i.entry s = some v ∧ i.convert v = .ok a := by
  unfold Item.value at h
  split at h
  · exact .inl (Except.ok.inj h).symm
  · next v hv => exact .inr ⟨v, hv, h⟩

/-- An item returns if what is shown of it counts as given where it has to, and comes to the item. -/
theorem Item.value_shown [Host] {i : Item} {p : Preferences} {v : Value} (hentry : i.entry (shown p) = some v)
    (hconvert : i.convert v = .ok (i.get p)) : i.value (shown p) = .ok (i.get p) := by
  rw [Item.value, hentry]
  exact hconvert

theorem given?_text {s : Settings} {a b t : String} (h : s a b = some (.str t)) (ht : t ≠ "") :
    s.given? a b = some (.str t) :=
  given?_eq_some.2 ⟨h, by simpa [Value.truthy] using ht⟩

section

variable [Host]

/-- What counts as given comes to a text with something in it. -/
theorem ne_empty_of_given {s : Settings} {a b : String} {v : Value} {t : String} (hv : s.given? a b = some v)
    (ht : v.toText = .ok t) : t ≠ "" :=
  Value.toText_ne_empty (given?_eq_some.1 hv).2 ht

/-! ## Item by item -/

/-- A text that has to count as given returns, unless the one that holds without it is empty. -/
theorem returns_text {a b : String} {get : Preferences → String} {set : Preferences → String → Preferences}
    (hshown : ∀ p, shown p a b = some (.str (get p))) (hdefault : get default ≠ "") :
    Item.Returns ⟨String, (Settings.given? · a b), Value.toText, get, set⟩ := by
  intro s p h
  have ht : get p ≠ "" := by
    rcases Item.value_eq_ok h with heq | ⟨v, hv, ht⟩
    · exact ne_of_eq_of_ne heq hdefault
    · exact ne_empty_of_given hv ht
  exact Item.value_shown (given?_text (hshown p) ht) rfl

/-- The usual path of the snapshot is told from the root on. -/
theorem normal_default : default.storage.path.Normal :=
  ((Path.normal_ofHome Host.home).below (by decide) (by decide)).below (by decide) (by decide)

theorem expandHome_default : default.storage.path.expandHome = .ok default.storage.path :=
  Path.expandHome_of_slashes (Path.slashes_ofHome Host.home)

theorem returns_path : Item.path.Returns := by
  intro s p h
  obtain ⟨hnormal, hhome⟩ : p.storage.path.Normal ∧ p.storage.path.expandHome = .ok p.storage.path := by
    rcases Item.value_eq_ok h with heq | ⟨v, -, hv⟩
    · have hdefault : p.storage.path = default.storage.path := heq
      rw [hdefault]
      exact ⟨normal_default, expandHome_default⟩
    · exact Value.toPath_eq_ok hv
  have hshown : shown p "storage" "path" = some (.str p.storage.path.toString) := rfl
  exact Item.value_shown (given?_text hshown (Path.toString_ne_empty hnormal)) (Value.toPath_toString hnormal hhome)

end

/-- A delay is never negative, and one that is not stays as it is. -/
theorem delayOf_delay {v : Value} {x : Binary64} (h : delayOf v = .ok x) : delayOf (.float x) = .ok x := by
  unfold delayOf at h
  cases hx : v.toFloat with
  | error f => simp [hx, Except.map] at h
  | ok y =>
    obtain rfl : (if y.isPositive then y else .zero false) = x := by simpa [hx, Except.map] using h
    by_cases hpositive : y.isPositive = true
    · simp [delayOf, Value.toFloat, Except.map, hpositive]
    · simp only [hpositive]
      rfl

section

variable [Host]

theorem returns_chunkDelay : Item.chunkDelay.Returns := by
  intro s p h
  have hdelay : delayOf (.float p.agent.chunkDelay) = .ok p.agent.chunkDelay := by
    rcases Item.value_eq_ok h with heq | ⟨v, -, hv⟩
    · have hdefault : p.agent.chunkDelay = default.agent.chunkDelay := heq
      have hpositive : (Binary64.ofDecimal false 2 (-2)).isPositive = true := by decide +kernel
      rw [hdefault, default]
      simp [delayOf, Value.toFloat, Except.map, hpositive]
    · exact delayOf_delay hv
  have hshown : shown p "agent" "chunk_delay" = some (.float p.agent.chunkDelay) := rfl
  exact Item.value_shown hshown hdelay

theorem returns_level : Item.level.Returns := by
  intro s p h
  obtain ⟨t, ht, hlevel⟩ : ∃ t, t ≠ "" ∧ p.logging.level = Text.upper t := by
    rcases Item.value_eq_ok h with heq | ⟨v, hv, hconvert⟩
    · have hdefault : "INFO" = Text.upper "INFO" := by decide +kernel
      exact ⟨"INFO", by decide, Eq.trans heq hdefault⟩
    · cases ht : v.toText with
      | error f => simp [Item.level, ht, Except.map] at hconvert
      | ok t =>
        have hupper : Text.upper t = p.logging.level := by simpa [Item.level, ht, Except.map] using hconvert
        exact ⟨t, ne_empty_of_given hv ht, hupper.symm⟩
  have hshown : shown p "logging" "level" = some (.str p.logging.level) := rfl
  have hagain : Text.upper p.logging.level = p.logging.level := by rw [hlevel, Text.upper_upper]
  exact Item.value_shown (given?_text hshown (hlevel ▸ Text.upper_ne_empty ht)) (congrArg Except.ok hagain)

/-- A file of logs comes to itself, and so does none. -/
theorem logFileOf_file {v : Value} {file : Option Path} (h : logFileOf v = .ok file) :
    logFileOf (.str ((file.map Path.toString).getD "")) = .ok file := by
  unfold logFileOf at h
  split at h
  · cases hpath : v.toPath with
    | error f => simp [hpath, Except.map] at h
    | ok path =>
      obtain rfl : some path = file := by simpa [hpath, Except.map] using h
      obtain ⟨hnormal, hhome⟩ := Value.toPath_eq_ok hpath
      have htruthy : (Value.str path.toString).truthy = true := by
        simpa [Value.truthy] using Path.toString_ne_empty hnormal
      rw [Option.map_some, Option.getD_some, logFileOf, if_pos htruthy, Value.toPath_toString hnormal hhome]
      rfl
  · obtain rfl := Except.ok.inj h
    rfl

theorem returns_file : Item.file.Returns := by
  intro s p h
  have hfile : logFileOf (.str ((p.logging.file.map Path.toString).getD "")) = .ok p.logging.file := by
    rcases Item.value_eq_ok h with heq | ⟨v, -, hv⟩
    · have hdefault : p.logging.file = none := heq
      rw [hdefault]
      rfl
    · exact logFileOf_file hv
  have hshown : shown p "logging" "file" = some (.str ((p.logging.file.map Path.toString).getD "")) := rfl
  exact Item.value_shown hshown hfile

theorem returns_items : ∀ i ∈ items, i.Returns := by
  have hhost : Item.host.Returns := fun _ _ _ => rfl
  have hport : Item.port.Returns := fun _ _ _ => rfl
  have hstateKey : Item.stateKey.Returns := returns_text (fun _ => rfl) (by simp [default, Shelf.defaultKey])
  have hname : Item.name.Returns := returns_text (fun _ => rfl) (by simp [default])
  simp only [items, List.forall_mem_cons]
  exact ⟨hhost, hport, returns_path, hstateKey, hname, returns_chunkDelay, returns_level, returns_file, by simp⟩

/-! ## All items -/

/-- Preferences that came from settings come from what is shown of them. -/
theorem settles_shown {s : Settings} {p : Preferences} (h : Settles s p) : Settles (shown p) p :=
  fun i hi => returns_items i hi s p (h i hi)

/-- **Preferences that came from a document come from what is shown of them.** Whatever was set, and whether it was set
at all: the preferences in a form to look at are a document that is taken over without a fault and sets the same. -/
theorem apply_shown {s : Settings} {p : Preferences} (h : apply default s = (none, p)) :
    applyJson default (p.toJson (.float p.agent.chunkDelay)) = (none, p) := by
  have hfaults : faults s = [] := by
    rw [← List.head?_eq_none_iff, ← apply_faults, h]
  obtain ⟨q, hq, happly⟩ := apply_settles hfaults
  obtain rfl : p = q := (Prod.mk.inj (h.symm.trans happly)).2
  obtain ⟨q, hq', hshown⟩ := apply_settles (faults_of_settles (settles_shown hq))
  obtain rfl : q = p := hq'.unique (settles_shown hq)
  exact hshown

end

/-- Settings of which none is as the preference that it sets: a host that is no text, a port with blanks around it, a
path below the home directory, a key that is a list, no name, a delay below zero, a level whose upper case is longer,
and a file of logs that is the working directory. -/
def roughSettings : Settings
  | "server", "host" => some .null
  | "server", "port" => some (.str " 8_080 ")
  | "storage", "path" => some (.str "~//chat/./state.json")
  | "storage", "state_key" => some (.list [.int 1])
  | "agent", "name" => some (.int 0)
  | "agent", "chunk_delay" => some (.str "-0.5")
  | "logging", "level" => some (.str "straße")
  | "logging", "file" => some (.str "./")
  | _, _ => none

section

attribute [local instance] Host.sample

/-- The preferences that come from them. -/
def roughPreferences : Preferences where
  server := ⟨"None", 8080⟩
  storage := ⟨⟨1, ["home", "tester", "chat", "state.json"]⟩, "[1]"⟩
  agent := ⟨"echo", .zero false⟩
  logging := ⟨"STRASSE", some ⟨0, []⟩⟩

theorem rough_shown :
    apply default roughSettings = (none, roughPreferences) ∧
      applyJson default (roughPreferences.toJson (.float (.zero false))) = (none, roughPreferences) := by
  have happly : apply default roughSettings = (none, roughPreferences) := rfl
  exact ⟨happly, apply_shown happly⟩

end

end Preferences

end ChatRelay
