import ChatRelay.Preferences.File
import ChatRelay.Proofs.Yaml.Settings

/-!
# Preferences from settings

- `apply_unnumbered`: the numbers of nodes do not show in preferences;
- `apply_renamed`: settings with another name for the agent set what the settings set, with that name;
- `ofText_sheet`: a sheet is read exactly if it is legible and its settings can be taken over.
-/

namespace ChatRelay.Preferences

open Yaml (Value Sheet Section Document)

/-- The preferences with another agent. -/
def withAgent (name : String) (p : Preferences) : Preferences := { p with agent.name := name }

section Taking

variable {α : Type} {entry : Option Value} {convert : Value → Except Fault α} {set : Preferences → α → Preferences}
  {p q : Preferences} {r : Applied}

/-- A fault stays. -/
theorem none_of_take (h : (take entry convert set r).1 = none) : r.1 = none := by
  obtain ⟨_ | f, p⟩ := r
  · rfl
  · exact h

/-- An entry is taken over without the number of its node. -/
theorem take_unnumbered (h : ∀ v, convert v.unnumbered = convert v) (set : Preferences → α → Preferences) :
    take (entry.map Value.unnumbered) convert set = take entry convert set := by
  funext r
  obtain ⟨_ | f, p⟩ := r
  · cases entry with
    | none => rfl
    | some v => simp only [take, Option.map_some, h]
  · rfl

/-- What is taken over elsewhere leaves the agent. -/
theorem take_withAgent {name : String} (h : ∀ p a, set (withAgent name p) a = withAgent name (set p a)) :
    take entry convert set (r.map id (withAgent name)) = (take entry convert set r).map id (withAgent name) := by
  obtain ⟨_ | f, p⟩ := r
  · simp only [take, Prod.map, id]
    cases entry.map convert with
    | none => rfl
    | some x =>
      cases x with
      | ok a => simp only [h]
      | error f => rfl
  · rfl

end Taking

/-! ## Numbers of nodes -/

theorem given?_unnumbered (s : Settings) (section_ key : String) :
    Settings.given? (fun a b => (s a b).map Value.unnumbered) section_ key =
      (s.given? section_ key).map Value.unnumbered := by
  simp only [Settings.given?]
  cases s section_ key with
  | none => rfl
  | some v =>
    simp only [Option.map_some, Option.filter, Value.truthy_unnumbered]
    split <;> rfl

theorem delayOf_unnumbered (v : Value) : delayOf v.unnumbered = delayOf v := by
  simp only [delayOf, Value.toFloat_unnumbered]

theorem logFileOf_unnumbered [Host] (v : Value) : logFileOf v.unnumbered = logFileOf v := by
  simp only [logFileOf, Value.truthy_unnumbered, Value.toPath_unnumbered]

/-- The numbers of nodes do not show in preferences. -/
theorem apply_unnumbered [Host] (p : Preferences) (s : Settings) :
    apply p (fun a b => (s a b).map Value.unnumbered) = apply p s := by
  simp only [apply, applyServer, applyStorage, applyAgent, applyLogging, given?_unnumbered,
    take_unnumbered Value.toText_unnumbered, take_unnumbered Value.toInt_unnumbered,
    take_unnumbered Value.toPath_unnumbered, take_unnumbered delayOf_unnumbered, take_unnumbered logFileOf_unnumbered]

/-! ## Another agent -/

section Renaming

variable {p q : Preferences} {s s' : Settings} {name : String}

theorem take_name [Host] {r : Applied} (hr : r.1 = none) (hname : name ≠ "")
    (h : (take (s.given? "agent" "name") Value.toText (fun p name => { p with agent.name := name }) r).1 = none)
    (hs : s' "agent" "name" = some (.str name)) :
    take (s'.given? "agent" "name") Value.toText (fun p name => { p with agent.name := name }) r =
      (take (s.given? "agent" "name") Value.toText (fun p name => { p with agent.name := name }) r).map id
        (withAgent name) := by
  obtain ⟨_ | f, p⟩ := r
  · have hgiven : s'.given? "agent" "name" = some (.str name) := by
      have htruthy : (Value.str name).truthy = true := by simpa [Value.truthy] using hname
      rw [Settings.given?, hs, Option.filter, if_pos htruthy]
    have htext : (Value.str name).toText = .ok name := rfl
    simp only [take, hgiven, Option.map_some, htext] at h ⊢
    cases hx : (s.given? "agent" "name").map Value.toText with
    | none => rfl
    | some x =>
      cases x with
      | ok a => rfl
      | error f => simp [hx] at h
  · cases hr

/-- Settings with another name for the agent set what the settings set, with that name. -/
theorem apply_renamed [Host] (h : apply p s = (none, q)) (hname : name ≠ "") (hs : s' "agent" "name" = some (.str name))
    (hrest : ∀ a b, ¬(a = "agent" ∧ b = "name") → s' a b = s a b) : apply p s' = (none, withAgent name q) := by
  have hgiven : ∀ a b, ¬(a = "agent" ∧ b = "name") → s'.given? a b = s.given? a b := fun a b hab => by
    rw [Settings.given?, hrest a b hab, Settings.given?]
  have hbefore : applyStorage s' (applyServer s' (none, p)) = applyStorage s (applyServer s (none, p)) := by
    simp only [applyServer, applyStorage, hrest "server" "host" (by decide), hrest "server" "port" (by decide),
      hgiven "storage" "path" (by decide), hgiven "storage" "state_key" (by decide)]
  have hlogging : ∀ r : Applied,
      applyLogging s' (r.map id (withAgent name)) = (applyLogging s r).map id (withAgent name) := fun r => by
    simp only [applyLogging, hgiven "logging" "level" (by decide), hrest "logging" "file" (by decide)]
    rw [take_withAgent fun _ _ => rfl, take_withAgent fun _ _ => rfl]
  have hend : (apply p s).1 = none := by rw [h]
  have hdelay := none_of_take (none_of_take hend)
  have hagent := none_of_take hdelay
  have happly : applyAgent s' (applyStorage s (applyServer s (none, p))) =
      (applyAgent s (applyStorage s (applyServer s (none, p)))).map id (withAgent name) := by
    rw [applyAgent, take_name (none_of_take hagent) hname hagent hs, hrest "agent" "chunk_delay" (by decide),
      take_withAgent fun _ _ => rfl]
    rfl
  rw [apply, hbefore, happly, hlogging]
  exact congrArg (Prod.map id (withAgent name)) h

end Renaming

/-! ## Sheets -/

/-- A sheet is read exactly if it is legible and its settings can be taken over. -/
theorem ofText_sheet [Host] {f : Sheet} {path : Path} {p : Preferences} {notices : List Notice} :
    ofText path f.text = .ok (p, notices) ↔ f.Legible ∧ apply default f.setting? = (none, p) ∧ notices = [] := by
  rcases Decidable.em (f.sections = []) with hf | hf
  · have hlegible : f.Legible := fun s hs => absurd (hf ▸ hs) List.not_mem_nil
    have hsettings : f.setting? = fun _ _ => none := by
      funext a b
      simp [Sheet.setting?, Sheet.value?, Section.value?, Section.find?, hf]
    have happly : apply default (fun _ _ => none) = (none, default) := rfl
    have hread : ofText path f.text = .ok (default, []) := by rw [ofText, f.ofText_blank hf]; rfl
    rw [hread, hsettings, happly]
    simp [hlegible, eq_comm]
  · have hvalues : (∃ vss, Section.values 1 f.sections = .ok vss) ↔ f.Legible := Section.values_ok_iff
    cases hv : Section.values 1 f.sections with
    | error fault =>
      have hread : ofText path f.text = .error fault := by
        simp only [ofText, f.ofText_text hf, hv, bind, Except.bind, Except.map]
      rw [hread, ← hvalues, hv]
      simp
    | ok vss =>
      have hsettings : apply default (Document.setting? (f.document vss)) = apply default f.setting? := by
        rw [← apply_unnumbered]
        exact congrArg _ (funext fun a => funext fun b => Sheet.setting?_document hv a b)
      have htruthy : (f.document vss).truthy = true := by
        obtain ⟨s, ss, hss⟩ := List.exists_cons_of_ne_nil hf
        rw [Document.truthy, show (f.document vss).root = 0 from rfl, Sheet.get_root, hss]
        rfl
      have hmap : (f.document vss).isMap = true := by
        rw [Document.isMap, show (f.document vss).root = 0 from rfl, Sheet.get_root]
      simp only [ofText, f.ofText_text hf, hv, bind, Except.bind, Except.map, htruthy, hmap, hsettings, ← hvalues,
        Bool.not_true, Bool.false_eq_true, if_false, if_true]
      cases happly : apply default f.setting? with
      | mk fault q => cases fault <;> simp [eq_comm, pure, Except.pure]

end ChatRelay.Preferences
