import ChatRelay.Agent.Catalog
import ChatRelay.Preferences.Basic

/-!
# Agents from the catalog

- `Factory.call`: what comes of calling something in the catalog;
- `Catalog.library`: the catalog as the library that agents are found in. The only agent that there is echoes, so what
  is found is its delay;
- `AgentName.load`, `AgentName.ofPreferences`: the agent of a name, and the agent that preferences name.
-/

namespace ChatRelay

namespace AgentName

/-! ## Calls without a signature -/

/-- The complaint of something that takes a few options by name. -/
def miscount? (title : String) (most : Nat) (taken : List String) (options : Options) : Option String :=
  if most < options.length then
    some (title ++ " takes at most " ++ toString most ++ " keyword arguments (" ++ toString options.length ++ " given)")
  else
    ((options.map (·.1)).find? fun k => !taken.contains k).map fun k =>
      Text.literal k ++ " is an invalid keyword argument for " ++ title

/-- The complaint about options for an integer. -/
def integerComplaint? (options : Options) : Option String :=
  (miscount? "int()" 2 ["base"] options).or
    (if options.isEmpty then none else some "int() missing string argument")

/-- The complaint about an option for a text that has to be a text itself. Such a text holds no null character. -/
def textOption (name : String) (options : Options) : Except Fault (Option String) :=
  match Assoc.get? name options with
  | none => .ok none
  | some (.str s) => if s.contains '\x00' then .error .badValue else .ok none
  | some v =>
    let kind := if v.isNull then "None" else v.kind
    .ok (some ("str() argument '" ++ name ++ "' must be str, not " ++ kind))

/-- The complaint about options for a text: nothing that can be given can be decoded. -/
def textComplaint (options : Options) : Except Fault (Option String) :=
  match miscount? "str()" 3 ["object", "encoding", "errors"] options with
  | some reason => .ok (some reason)
  | none => do
    match ← textOption "encoding" options with
    | some reason => return some reason
    | none =>
      match ← textOption "errors" options, Assoc.get? "object" options with
      | some reason, _ => return some reason
      | none, none => return none
      | none, some v =>
        if options.length = 1 then return none
        else if v.str?.isSome then return some "decoding str is not supported"
        else return some ("decoding to str: need a bytes-like object, " ++ v.kind ++ " found")

end AgentName

open AgentName (Options)

/-- A complaint, or something of no use is made. -/
def Making.ofComplaint : Option String → Making Unit
  | some reason => .refused reason
  | none => .made (.other ())

/-- What comes of calling something in the catalog. -/
def Factory.call (options : Options) : Factory → Making Unit
  | .echo => .ofEcho options
  | .other s reason => .ofComplaint ((AgentName.complaint? s options).or reason)
  | .bare complaint reason => .ofComplaint (if options.isEmpty then reason else some complaint)
  | .integer => .ofComplaint (AgentName.integerComplaint? options)
  | .text =>
    match AgentName.textComplaint options with
    | .ok complaint => .ofComplaint complaint
    | .error f => .failed f
  | .refusing reason => .refused reason

/-- The catalog as a library. Nothing in it makes an agent of another kind. -/
def Catalog.library : Library Factory Unit where
  package? path := (Assoc.get? path modules).map (·.isPackage)
  attribute? path name := (Assoc.get? path modules).bind fun m => Assoc.get? name m.names
  call f options := f.call options
  methods _ := []

/-- The delay of an agent from the catalog. -/
def Catalog.delay : Catalog.library.Agent → Json
  | ⟨.echo delay, _⟩ => delay
  | ⟨.other _, able⟩ => absurd (able "create_session" (by decide)) List.not_mem_nil

namespace AgentName

/-- The delay of the agent of a name. -/
def load (name : String) (options : Options) : Except Fault Json :=
  (Catalog.library.load name options).map Catalog.delay

/-- The delay of the agent that preferences name. The delay among them is that of the agent that is always there. -/
def ofPreferences (p : AgentPreferences) : Except Fault Json :=
  load p.name (if p.name = "echo" then [("chunk_delay", .float p.chunkDelay)] else [])

end AgentName

end ChatRelay
