import ChatRelay.Proofs.Preferences.Items
import ChatRelay.Proofs.Preferences.Renaming

/-!
# A preferences file sets all or nothing

What was taken over from a file before a fault is never seen: a file is loaded with all of its settings, or it counts
for nothing. Some faults are not forgiven, and then it is not loaded at all.

- `Holds`: the settings in the bytes of a file;
- `Expected`: what bytes should come to, one thing and no other (`Expected.unique`);
- `Escapes`: the faults that they come to instead, of a document or of the few settings in `Unforgiven`;
- `Comes`: the alternative of both, which holds of every text (`comes_text`);
- `load_expected`: every file comes to what is expected, or to a fault that escapes.
-/

namespace ChatRelay.Preferences

open Yaml (Document)

/-! ## Files -/

/-- The bytes of a file hold settings: they are a text of one document, which is a map. -/
inductive Holds [Host] (bytes : ByteArray) : Settings → Prop
  | mapping {t : String} {doc : Document} : t.toUTF8 = bytes → Document.ofText (Disk.unified t) = .ok doc →
      doc.isMap = true → Holds bytes doc.setting?

/-- What a file should come to: the usual preferences with all of its settings, or just the usual ones if it holds no
settings or one that cannot be converted. -/
inductive Expected [Host] (bytes : ByteArray) : Preferences → Prop
  | settled {s : Settings} {p : Preferences} : Holds bytes s → Settles s p → Expected bytes p
  | fallback : (∀ s, Holds bytes s → faults s ≠ []) → Expected bytes default

/-- The faults that a file comes to instead, because they are not forgiven: one of its document, or the first one of its
settings. -/
inductive Escapes [Host] (bytes : ByteArray) : Fault → Prop
  | document {t : String} {f : Fault} : t.toUTF8 = bytes → Document.ofText (Disk.unified t) = .error f →
      isForgiven f = false → Escapes bytes f
  | setting {s : Settings} {f : Fault} {fs : List Fault} : Holds bytes s → faults s = f :: fs → Unforgiven s f →
      Escapes bytes f

section

variable {bytes : ByteArray} {s : Settings} {p : Preferences} {f : Fault} {path : Path} {d : Disk}

section

variable [Host]

/-- Bytes that hold settings are a text. -/
theorem exists_text (h : Holds bytes s) : ∃ t : String, t.toUTF8 = bytes := by
  obtain ⟨htext, -, -⟩ := h
  exact ⟨_, htext⟩

/-- The settings of a text are those of its document. -/
theorem holds_iff {t : String} (htext : t.toUTF8 = bytes) :
    Holds bytes s ↔ ∃ doc, Document.ofText (Disk.unified t) = .ok doc ∧ doc.isMap = true ∧ s = doc.setting? := by
  constructor
  · rintro ⟨htext', hdoc, hmap⟩
    obtain rfl := Disk.toUTF8_inj (htext'.trans htext.symm)
    exact ⟨_, hdoc, hmap, rfl⟩
  · rintro ⟨doc, hdoc, hmap, rfl⟩
    exact .mapping htext hdoc hmap

/-- A file holds one document only. -/
theorem Holds.unique {s' : Settings} (h : Holds bytes s) (h' : Holds bytes s') : s = s' := by
  obtain ⟨t, htext⟩ := exists_text h
  obtain ⟨doc, hdoc, -, rfl⟩ := (holds_iff htext).1 h
  obtain ⟨doc', hdoc', -, rfl⟩ := (holds_iff htext).1 h'
  rw [hdoc] at hdoc'
  rw [Except.ok.inj hdoc']

/-- A file is expected to come to one thing only. -/
theorem Expected.unique {q : Preferences} (hp : Expected bytes p) (hq : Expected bytes q) : p = q := by
  cases hp with
  | settled hs hp =>
    cases hq with
    | settled hs' hq => exact hp.unique (hs.unique hs' ▸ hq)
    | fallback h => exact absurd (faults_of_settles hp) (h _ hs)
  | fallback h =>
    cases hq with
    | settled hs hq => exact absurd (faults_of_settles hq) (h _ hs)
    | fallback => rfl

theorem exists_expected (bytes : ByteArray) : ∃ p, Expected bytes p := by
  by_cases h : ∃ s, Holds bytes s ∧ faults s = []
  · obtain ⟨s, hs, hfaults⟩ := h
    obtain ⟨p, hp, -⟩ := apply_settles hfaults
    exact ⟨p, .settled hs hp⟩
  · exact ⟨default, .fallback fun s hs hfaults => h ⟨s, hs, hfaults⟩⟩

end

/-! ### Documents -/

/-- A document that counts as not given has no settings. -/
theorem setting?_of_not_truthy {doc : Document} (h : doc.truthy = false) : doc.setting? = fun _ _ => none := by
  funext section_ key
  unfold Document.truthy at h
  unfold Document.setting? Document.child?
  split at h <;> simp_all [Yaml.Value.find?]

theorem settles_nothing [Host] : Settles (fun _ _ => none) default := by
  simp [Settles, items, Item.value, Item.host, Item.port, Item.path, Item.stateKey, Item.name, Item.chunkDelay,
    Item.level, Item.file, Settings.given?]

variable {text : String} {doc : Document}

section

variable [Host]

/-- The text of a map without faults sets all of its settings. -/
theorem ofText_settles (path : Path) (hdoc : Document.ofText text = .ok doc) (hmap : doc.isMap = true)
    (h : faults doc.setting? = []) : ∃ p, Settles doc.setting? p ∧ ofText path text = .ok (p, []) := by
  cases htruthy : doc.truthy with
  | false =>
    refine ⟨default, ?_, by simp [ofText, hdoc, htruthy, bind, Except.bind, pure, Except.pure]⟩
    rw [setting?_of_not_truthy htruthy]
    exact settles_nothing
  | true =>
    obtain ⟨p, hp, happly⟩ := apply_settles h
    exact ⟨p, hp, by simp [ofText, hdoc, htruthy, hmap, happly, bind, Except.bind, pure, Except.pure]⟩

/-- The text of a map with faults comes to the first one. -/
theorem ofText_faults (path : Path) (hdoc : Document.ofText text = .ok doc) (hmap : doc.isMap = true) {fs : List Fault}
    (h : faults doc.setting? = f :: fs) : ofText path text = .error f := by
  cases htruthy : doc.truthy with
  | false =>
    rw [setting?_of_not_truthy htruthy, faults_of_settles settles_nothing] at h
    cases h
  | true =>
    have happly : (apply default doc.setting?).1 = some f := by rw [apply_faults, h, List.head?_cons]
    rcases hpair : apply default doc.setting? with ⟨g, p⟩
    rw [hpair] at happly
    obtain rfl : g = some f := happly
    simp [ofText, hdoc, htruthy, hmap, hpair, bind, Except.bind]

theorem ofText_of_not_isMap (path : Path) (hdoc : Document.ofText text = .ok doc) (hmap : doc.isMap = false) :
    ∃ notices, ofText path text = .ok (default, notices) := by
  cases htruthy : doc.truthy <;> simp [ofText, hdoc, htruthy, hmap, bind, Except.bind, pure, Except.pure]

/-! ### Loading -/

/-- The preferences after a reading, where a fault that is forgiven leaves the usual ones. -/
def forgiving : Except Fault (Preferences × List Notice) → Except Fault Preferences
  | .ok r => .ok r.1
  | .error f => if isForgiven f then .ok default else .error f

theorem load_of_bytes (h : d.readBytes path = .ok bytes) :
    (load d path).1 = forgiving ((Disk.decode bytes).bind (ofText path)) ∧ (load d path).2.1 = d := by
  simp only [load, Disk.exists_of_readBytes h, Disk.readText, h]
  rw [show (Except.ok bytes : Except Fault ByteArray).bind Disk.decode = Disk.decode bytes from rfl]
  cases (Disk.decode bytes).bind (ofText path) with
  | ok r => exact ⟨rfl, rfl⟩
  | error f =>
    dsimp only [forgiving]
    split <;> exact ⟨rfl, rfl⟩

/-- Bytes of no text come to no fault. -/
theorem exists_text_of_escapes (h : Escapes bytes f) : ∃ t : String, t.toUTF8 = bytes := by
  cases h with
  | document htext _ _ => exact ⟨_, htext⟩
  | setting hs _ _ => exact exists_text hs

/-- What is made of a file: what is expected, unless it comes to a fault. -/
def Comes (bytes : ByteArray) : Except Fault Preferences → Prop
  | .ok p => Expected bytes p ∧ ∀ f, ¬Escapes bytes f
  | .error f => ∀ g, Escapes bytes g ↔ g = f

/-- A file without settings falls back, unless its document is a fault that is not forgiven. -/
theorem comes_default (h : ∀ s, ¬Holds bytes s) (hescapes : ∀ f, ¬Escapes bytes f) : Comes bytes (.ok default) :=
  ⟨.fallback fun s hs => absurd hs (h s), hescapes⟩

/-- A file with a fault falls back if the fault is forgiven. -/
theorem comes_fault (h : ∀ s, Holds bytes s → faults s ≠ [])
    (hescapes : ∀ g, Escapes bytes g ↔ g = f ∧ isForgiven g = false) : Comes bytes (forgiving (.error f)) := by
  simp only [forgiving]
  split
  · next hf =>
    refine ⟨.fallback h, fun g hg => ?_⟩
    obtain ⟨rfl, hg⟩ := (hescapes g).1 hg
    rw [hf] at hg
    cases hg
  · next hf =>
    intro g
    rw [hescapes, and_iff_left_iff_imp]
    rintro rfl
    exact Bool.eq_false_of_not_eq_true hf

end

section

variable {t : String} (htext : t.toUTF8 = bytes)

include htext

variable [Host]

theorem escapes_of_error (hdoc : Document.ofText (Disk.unified t) = .error f) {g : Fault} :
    Escapes bytes g ↔ g = f ∧ isForgiven g = false := by
  constructor
  · intro h
    cases h with
    | document htext' hdoc' hg =>
      obtain rfl := Disk.toUTF8_inj (htext'.trans htext.symm)
      exact ⟨Except.error.inj (hdoc'.symm.trans hdoc), hg⟩
    | setting hs _ _ =>
      obtain ⟨doc, hdoc', -, -⟩ := (holds_iff htext).1 hs
      rw [hdoc] at hdoc'
      cases hdoc'
  · rintro ⟨rfl, hg⟩
    exact .document htext hdoc hg

theorem escapes_of_ok (hdoc : Document.ofText (Disk.unified t) = .ok doc) (hwhole : ∀ s, Holds bytes s → ¬Halved s)
    {g : Fault} : Escapes bytes g ↔ doc.isMap = true ∧ (faults doc.setting?).head? = some g ∧ isForgiven g = false := by
  constructor
  · intro h
    cases h with
    | document htext' hdoc' _ =>
      obtain rfl := Disk.toUTF8_inj (htext'.trans htext.symm)
      rw [hdoc] at hdoc'
      cases hdoc'
    | setting hs hfaults hg =>
      obtain ⟨doc', hdoc', hmap, rfl⟩ := (holds_iff htext).1 hs
      obtain rfl := Except.ok.inj (hdoc.symm.trans hdoc')
      exact ⟨hmap, by rw [hfaults, List.head?_cons], ((unforgiven_iff (hwhole _ hs)).2 hg).2⟩
  · rintro ⟨hmap, hfirst, hg⟩
    obtain ⟨fs, hfaults⟩ := List.head?_eq_some_iff.1 hfirst
    have hs := Holds.mapping htext hdoc hmap
    exact .setting hs hfaults ((unforgiven_iff (hwhole _ hs)).1 ⟨by simp [hfaults], hg⟩)

/-- A text that comes to a fault has no settings that can all be taken over. -/
theorem faults_ne_nil (hread : ofText path (Disk.unified t) = .error f) (hs : Holds bytes s) : faults s ≠ [] := by
  intro hfaults
  obtain ⟨doc, hdoc, hmap, rfl⟩ := (holds_iff htext).1 hs
  obtain ⟨p, -, hread'⟩ := ofText_settles path hdoc hmap hfaults
  rw [hread] at hread'
  cases hread'

/-- What is made of a text. -/
theorem comes_text (hwhole : ∀ s, Holds bytes s → ¬Halved s) (path : Path) :
    Comes bytes (forgiving (ofText path (Disk.unified t))) := by
  cases hdoc : Document.ofText (Disk.unified t) with
  | error f =>
    have hread : ofText path (Disk.unified t) = .error f := by simp [ofText, hdoc, bind, Except.bind]
    rw [hread]
    exact comes_fault (fun s hs => faults_ne_nil htext hread hs) fun g => escapes_of_error htext hdoc
  | ok doc =>
    cases hmap : doc.isMap with
    | false =>
      obtain ⟨notices, hread⟩ := ofText_of_not_isMap path hdoc hmap
      rw [hread]
      refine comes_default (fun s hs => ?_) fun g hg => ?_
      · obtain ⟨doc', hdoc', hmap', -⟩ := (holds_iff htext).1 hs
        obtain rfl := Except.ok.inj (hdoc.symm.trans hdoc')
        simp [hmap] at hmap'
      · simp [escapes_of_ok htext hdoc hwhole, hmap] at hg
    | true =>
      cases hfaults : faults doc.setting? with
      | nil =>
        obtain ⟨p, hp, hread⟩ := ofText_settles path hdoc hmap hfaults
        rw [hread]
        refine ⟨.settled (.mapping htext hdoc hmap) hp, fun g hg => ?_⟩
        simp [escapes_of_ok htext hdoc hwhole, hfaults] at hg
      | cons f fs =>
        have hread := ofText_faults path hdoc hmap hfaults
        rw [hread]
        refine comes_fault (fun s hs => faults_ne_nil htext hread hs) fun g => ?_
        rw [escapes_of_ok htext hdoc hwhole, hmap, hfaults, List.head?_cons, Option.some.injEq, eq_comm (a := f)]
        simp

end

/-- Every file comes to what is expected, unless it comes to a fault. -/
theorem comes_load [Host] (h : d.readBytes path = .ok bytes) (hwhole : ∀ s, Holds bytes s → ¬Halved s) :
    Comes bytes (load d path).1 := by
  rw [(load_of_bytes h).1]
  by_cases htext : ∃ t : String, t.toUTF8 = bytes
  · obtain ⟨t, htext⟩ := htext
    have hread : (Disk.decode bytes).bind (ofText path) = ofText path (Disk.unified t) := by
      rw [← htext, Disk.decode_toUTF8, Except.bind]
    rw [hread]
    exact comes_text htext hwhole path
  · rw [Disk.decode_eq_error.2 ⟨rfl, not_exists.1 htext⟩]
    exact comes_default (fun s hs => htext (exists_text hs)) fun g hg => htext (exists_text_of_escapes hg)

end

/-! ## Two files -/

theorem readBytes_diskOf (text : String) : (diskOf text).readBytes ownPath = .ok text.toUTF8 :=
  Disk.readBytes_of_writable (writable_diskOf text) rfl

section

attribute [local instance] Host.sample

/-- The file with a port and an agent holds characters only. -/
theorem ownText_whole {s : Settings} (h : Holds ownText.toUTF8 s) : ¬Halved s := by
  have hlines : Disk.unified ownText = ownText := Disk.unified_eq_self (by decide)
  have hwhole : (match Document.ofText ownText with | .ok doc => decide (Halved doc.setting?) | .error _ => false) =
      false := by decide +kernel
  obtain ⟨doc, hdoc, -, rfl⟩ := (holds_iff rfl).1 h
  rw [hlines] at hdoc
  simpa [hdoc] using hwhole

/-- A file with a host and an infinite port. -/
def infiniteText : String := "server:\n  host: example\n  port: .inf\n"

end

end ChatRelay.Preferences
