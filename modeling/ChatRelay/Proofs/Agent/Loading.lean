import ChatRelay.Web.Site
import Mathlib.Data.List.TakeWhile

/-!
# Names of agents

A name is a free text, and there are many ways in which no agent goes by it: it is no module and name in it, a package
on the way is missing or is no package, nothing of the name stands in the module, it cannot be called with the options,
or what it makes is no agent. All of them are refusals that tell the name. What is left is a module that is named from
where one stands, with a dot in front. There is no such place, and that is not told as a refusal of the name.

- `AgentName.Relative`: names with a dot in front, told on the text alone (`relative_iff`);
- `Library.Resolves`: an agent was found, or the name was refused;
- `Library.Mild`: what is called makes something or is refused, as in the catalog without options (`mild_catalog`);
- `Library.load_of_relative`, `Library.resolves_load`: those names fail, and all others are resolved;
- `Library.resolves_iff`: which names are resolved, and what comes of choosing an agent by them.
-/

namespace ChatRelay

namespace AgentName

/-! ## Texts of names -/

/-- A name of something in a module that is named from where one stands: with a dot in front. -/
def Relative (name : String) : Prop :=
  ∃ module inner, name.toList = '.' :: module ++ ':' :: inner ∧ ':' ∉ module ∧ inner ≠ []

/-- A name without a colon spells no module. -/
theorem split?_of_not_mem {name : String} (h : ':' ∉ name.toList) : split? name = none := by
  have hall : name.toList.takeWhile (· ≠ ':') = name.toList :=
    List.takeWhile_eq_self_iff.2 fun c hc => by simpa using ne_of_mem_of_not_mem hc h
  simp only [split?, hall, List.drop_length]

/-- A name with a colon is parted at the first one, if there is something on both sides. -/
theorem split?_append {name : String} {module inner : List Char} (h : ':' ∉ module)
    (hname : name.toList = module ++ ':' :: inner) :
    split? name =
      if module.isEmpty || inner.isEmpty then none else some (String.ofList module, String.ofList inner) := by
  have hmodule : (module ++ ':' :: inner).takeWhile (· ≠ ':') = module := by
    rw [List.takeWhile_append_of_pos fun c hc => by simpa using ne_of_mem_of_not_mem hc h]
    simp
  simp only [split?, hname, hmodule, List.drop_left]

theorem relative_iff {name : String} :
    Relative name ↔ ∃ module inner, split? name = some (module, inner) ∧ module.startsWith "." = true := by
  constructor
  · rintro ⟨module, inner, hname, hcolon, hinner⟩
    refine ⟨String.ofList ('.' :: module), String.ofList inner, ?_, ?_⟩
    · rw [split?_append (by simpa using hcolon) hname, if_neg (by simpa using hinner)]
    · exact String.startsWith_string_iff.2 ⟨module, by simp⟩
  · rintro ⟨module, inner, hsplit, hdot⟩
    by_cases hcolon : ':' ∈ name.toList
    · obtain ⟨before, after, hname, hbefore⟩ := List.eq_append_cons_of_mem hcolon
      rw [split?_append hbefore hname] at hsplit
      split at hsplit
      · cases hsplit
      · next hparts =>
        obtain ⟨rfl, rfl⟩ := Prod.mk.inj (Option.some.inj hsplit)
        obtain ⟨rest, hrest⟩ := String.startsWith_string_iff.1 hdot
        obtain rfl : '.' :: rest = before := by simpa using hrest
        exact ⟨rest, after, hname, fun hmem => hbefore (List.mem_cons_of_mem _ hmem), by simpa using hparts⟩
    · rw [split?_of_not_mem hcolon] at hsplit
      cases hsplit

instance (name : String) : Decidable (Relative name) :=
  decidable_of_iff (∃ spelled ∈ split? name, spelled.1.startsWith "." = true)
    ⟨fun ⟨spelled, hsplit, hdot⟩ => relative_iff.2 ⟨spelled.1, spelled.2, hsplit, hdot⟩,
      fun h => let ⟨module, inner, hsplit, hdot⟩ := relative_iff.1 h; ⟨(module, inner), hsplit, hdot⟩⟩

example : Relative ".x:y" := by decide +kernel

example : ¬Relative "x.:y" := by decide +kernel

end AgentName

namespace Library

open AgentName (Relative)

variable {φ ω : Type} {l : Library φ ω}

/-- An agent was found, which has the methods of one, or the name was refused. -/
inductive Resolves (l : Library φ ω) : Except Fault l.Agent → Prop
  | agent (m : Made ω) (able : ∀ method ∈ agentMethods, method ∈ l.methodsOf m) : Resolves l (.ok ⟨m, able⟩)
  | refused (reason : String) : Resolves l (.error (.agentLoad reason))

/-- Whatever is made or refused, the name is resolved. -/
theorem resolves_check {m : Making ω} (h : ∀ f, m ≠ .failed f) (name : String) : Resolves l (l.check name m) := by
  cases m with
  | made m =>
    rw [check]
    split
    · next able => exact .agent m able
    · exact .refused _
  | refused reason => exact .refused _
  | failed f => exact absurd rfl (h f)

theorem ofEcho_ne_failed (options : AgentName.Options) (f : Fault) :
    (Making.ofEcho options : Making ω) ≠ .failed f := by
  unfold Making.ofEcho
  split <;> simp

/-- Whatever is called with options makes something or is refused, and fails in no way of its own. -/
def Mild (l : Library φ ω) (options : AgentName.Options) : Prop := ∀ f fault, l.call f options ≠ .failed fault

/-- Nothing in the catalog fails when it is called without options. -/
theorem mild_catalog : Catalog.library.Mild [] := by
  have hcomplaint (c : Option String) (fault : Fault) : Making.ofComplaint c ≠ .failed fault := by
    cases c <;> simp [Making.ofComplaint]
  intro f fault
  cases f with
  | echo => exact ofEcho_ne_failed [] fault
  | other s reason => exact hcomplaint _ fault
  | bare complaint reason => exact hcomplaint _ fault
  | integer => exact hcomplaint (AgentName.integerComplaint? []) fault
  | text => exact hcomplaint none fault
  | refusing reason => exact fun h => nomatch h

/-- A module with a dot in front is never found, and neither is any agent when its name is among the options. -/
theorem load_of_relative {name : String} {options : AgentName.Options}
    (h : Assoc.contains "name" options = true ∨ Relative name) : l.load name options = .error .badKind := by
  unfold load
  split
  · rfl
  · next hoption =>
    obtain ⟨module, inner, hsplit, hdot⟩ := AgentName.relative_iff.1 (h.resolve_left hoption)
    have hecho : name ≠ "echo" := by
      rintro rfl
      have hnone : AgentName.split? "echo" = none := by decide
      cases hnone.symm.trans hsplit
    rw [if_neg hecho, hsplit]
    exact if_pos hdot

/-- All other names are resolved, if calls fail in no way of their own. -/
theorem resolves_load {name : String} {options : AgentName.Options} (hcalls : l.Mild options)
    (h : ¬(Assoc.contains "name" options = true ∨ Relative name)) : Resolves l (l.load name options) := by
  obtain ⟨hoption, hrelative⟩ := not_or.1 h
  unfold load
  rw [if_neg hoption]
  split
  · exact resolves_check (ofEcho_ne_failed options) name
  · split
    · exact .refused _
    · next module inner hsplit =>
      rw [if_neg fun hdot => hrelative (AgentName.relative_iff.2 ⟨module, inner, hsplit, hdot⟩)]
      split
      · next f _ => exact resolves_check (hcalls f) name
      · exact .refused _

/-! ## Choosing an agent -/

section

variable [Host]

/-- A request names an agent. -/
def Names (body name : String) : Prop :=
  ∃ v, Json.readBytes body.toUTF8.toList = .ok v ∧ v.get? "name" = some (.str name)

/-- The name that a request holds, read off its text. -/
theorem names_iff {body name : String} :
    Names body name ↔
      ((Json.readBytes body.toUTF8.toList).toOption.bind (Json.get? "name")).bind Json.str? = some name := by
  constructor
  · rintro ⟨v, hread, hname⟩
    rw [hread]
    simp only [Except.toOption, Option.bind_some, hname, Json.str?]
  · intro h
    obtain ⟨w, hw, hname⟩ := Option.bind_eq_some_iff.1 h
    obtain ⟨v, hread, hget⟩ := Option.bind_eq_some_iff.1 hw
    refine ⟨v, ?_, ?_⟩
    · cases hresult : Json.readBytes body.toUTF8.toList with
      | error e => rw [hresult] at hread; cases hread
      | ok u => rw [hresult] at hread; exact congrArg Except.ok (Option.some.inj hread)
    · cases w with
      | str s => cases hname; exact hget
      | _ => cases hname

instance (body name : String) : Decidable (Names body name) := decidable_of_iff _ names_iff.symm

theorem chooseAgent_of_refused {s : Site} {body name reason : String} (h : Names body name)
    (hload : l.load name [] = .error (.agentLoad reason)) :
    s.chooseAgent l body = s.respond (.detail 400 reason) := by
  obtain ⟨v, hread, hname⟩ := h
  simp only [Site.chooseAgent, hread, hname, hload]

theorem begin_agentChoice (s : Site) (body : String) :
    s.begin (.http "PUT" "/api/config/agent" body) = s.chooseAgent Catalog.library body := by
  have hpath : Resource.ofPath "/api/config/agent" = .agentChoice := by decide +kernel
  simp only [Site.begin, hpath]
  rfl

theorem chooseAgent_of_relative {s : Site} {body name : String} (h : Names body name) (hrelative : Relative name) :
    s.chooseAgent l body = s.crash .badKind := by
  obtain ⟨v, hread, hname⟩ := h
  simp only [Site.chooseAgent, hread, hname, load_of_relative (.inr hrelative)]

/-- **Which names of agents are resolved.** If calls fail in no way of their own, the agent of a name is found or its
name is refused, unless its module has a dot in front, or the name is among the options once more: then something fails
that is no refusal. A request that names no agent that is found is told why, with the site as it was and nothing
written, unless its module has a dot in front: then the request fails. -/
theorem resolves_iff {options : AgentName.Options} (hcalls : l.Mild options) (hplain : l.Mild []) (name : String) :
    (Resolves l (l.load name options) ↔ ¬(Assoc.contains "name" options = true ∨ Relative name)) ∧
    (Assoc.contains "name" options = true ∨ Relative name → l.load name options = .error .badKind) ∧
    ∀ (s : Site) (body : String), Names body name → (∀ a, l.load name [] ≠ .ok a) →
      (¬Relative name → ∃ reason, s.chooseAgent l body =
        ⟨s, [], [], .finished (.ok (.response (.detail 400 reason)))⟩) ∧
      (Relative name → s.chooseAgent l body = ⟨s, [], [], .finished (.ok (.crashed .badKind))⟩) := by
  have hnone : Assoc.contains "name" ([] : AgentName.Options) = false := rfl
  refine ⟨⟨fun h hrelative => ?_, resolves_load hcalls⟩, load_of_relative,
    fun s body hbody hload => ⟨fun hrelative => ?_, chooseAgent_of_relative hbody⟩⟩
  · rw [load_of_relative hrelative] at h
    cases h
  · have hresolves : Resolves l (l.load name []) := resolves_load hplain (not_or.2 ⟨by simp [hnone], hrelative⟩)
    generalize hresult : l.load name [] = r at hresolves
    cases hresolves with
    | agent m able => exact absurd hresult (hload _)
    | refused reason => exact ⟨reason, chooseAgent_of_refused hbody hresult⟩

end

/-- A package with one module, in which something makes an agent, something makes another thing, and something cannot
be called. -/
def workshop : Library (Except String (List String)) (List String) where
  package? path := Assoc.get? path [("plugins", true), ("plugins.extra", false)]
  attribute? module name :=
    if module = "plugins.extra" then
      Assoc.get? name [("speaker", .ok agentMethods), ("mute", .ok ["create_session"]),
        ("limit", .error "'int' object is not callable")]
    else none
  call
    | .ok methods, _ => .made (.other methods)
    | .error reason, _ => .refused reason
  methods := id

theorem mild_workshop (options : AgentName.Options) : workshop.Mild options := by
  intro f fault
  cases f <;> simp [workshop]

section

attribute [local instance] Host.sample

/-- Names in the workshop: an agent that is made with an option, a name with a dot in front, and a request for something
that makes no agent. Another request is for a module that is not in the catalog. -/
theorem workshop_resolves :
    (workshop.load "plugins.extra:speaker" [("volume", .int 3)]).isOk = true ∧
    Resolves workshop (workshop.load "plugins.extra:speaker" [("volume", .int 3)]) ∧
    workshop.load ".extra:speaker" [] = .error .badKind ∧
    (∃ reason, Site.chooseAgent ⟨.new "", .default⟩ workshop "\x7b\"name\":\"plugins.extra:mute\"\x7d" =
      ⟨⟨.new "", .default⟩, [], [], .finished (.ok (.response (.detail 400 reason)))⟩) ∧
    ∃ reason, Site.begin ⟨.new "", .default⟩
      (.http "PUT" "/api/config/agent" "\x7b\"name\":\"nowhere:agent\"\x7d") =
      ⟨⟨.new "", .default⟩, [], [], .finished (.ok (.response (.detail 400 reason)))⟩ := by
  have hmute : (workshop.load "plugins.extra:mute" []).isOk = false := by decide +kernel
  have hnowhere : (Catalog.library.load "nowhere:agent" []).isOk = false := by decide +kernel
  have hplain := mild_workshop []
  refine ⟨by decide +kernel, (resolves_iff (mild_workshop _) hplain "plugins.extra:speaker").1.2 (by decide +kernel),
    (resolves_iff hplain hplain ".extra:speaker").2.1 (by decide +kernel), ?_, ?_⟩
  · refine ((resolves_iff hplain hplain "plugins.extra:mute").2.2 _ _ (by decide +kernel) fun a h => ?_).1
      (by decide +kernel)
    rw [h] at hmute
    cases hmute
  · rw [begin_agentChoice]
    refine ((resolves_iff mild_catalog mild_catalog "nowhere:agent").2.2 _ _ (by decide +kernel) fun a h => ?_).1
      (by decide +kernel)
    rw [h] at hnowhere
    cases hnowhere

/-- No agent goes by a name with a dot in front, and asking for it is no refusal but fails. -/
theorem leadingDot_fails :
    AgentName.load ".x:y" [] = .error .badKind ∧
    ¬Resolves Catalog.library (Catalog.library.load ".x:y" []) ∧
    Site.begin ⟨.new "", .default⟩ (.http "PUT" "/api/config/agent" "\x7b\"name\":\".x:y\"\x7d") =
      ⟨⟨.new "", .default⟩, [], [], .finished (.ok (.crashed .badKind))⟩ := by
  have hload : Catalog.library.load ".x:y" [] = .error .badKind := load_of_relative (.inr (by decide +kernel))
  have hnames : Names "\x7b\"name\":\".x:y\"\x7d" ".x:y" := by decide +kernel
  refine ⟨by rw [AgentName.load, hload]; rfl, fun h => ?_, ?_⟩
  · rw [hload] at h
    cases h
  · rw [begin_agentChoice]
    exact chooseAgent_of_relative hnames (by decide +kernel)

end

end Library

end ChatRelay
