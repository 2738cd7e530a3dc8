import ChatRelay.Assoc
import ChatRelay.Fault
import ChatRelay.Json.Basic

/-!
# Finding an agent by name

- `Library`: the modules that agents can be named from, and what can be made with what stands in them;
- `Library.find`: what stands behind a name in a module. Every package on the way to the module has to be there;
- `Library.Agent`: something made that has the methods of an agent;
- `Library.load`: the agent of a name, made with options. A name is `echo`, or a module and a name in it with a colon
  between them.
-/

namespace ChatRelay

/-- The options that something takes. -/
structure Signature where
  /-- What complaints about options begin with. -/
  title : String
  /-- The option that has its value from the call itself. -/
  bound : Option String
  needed : List String
  taken : List String
  /-- Whether any other option is taken too. -/
  takesAny : Bool

namespace AgentName

/-- The options that an agent is made with. -/
abbrev Options := List (String × Json)

/-! ## Failures -/

/-- The failure of a name that is none. -/
def unknown (name : String) : Fault :=
  .agentLoad ("unknown agent " ++ Text.literal name ++ " (expected one of ['echo'] or 'package.module:factory')")

/-- The failure of a name that leads nowhere. -/
def notImported (name reason : String) : Fault :=
  .agentLoad ("cannot import agent " ++ Text.literal name ++ ": " ++ reason)

/-- The failure of the making of an agent. -/
def notConstructed (name reason : String) : Fault :=
  .agentLoad ("cannot construct agent " ++ Text.literal name ++ ": " ++ reason)

/-- The failure of what is made to be an agent. -/
def noAgent (name : String) : Fault := .agentLoad (Text.literal name ++ " did not produce an agent backend")

/-! ## Names -/

/-- The module and the name in it that a name with a colon spells. -/
def split? (name : String) : Option (String × String) :=
  let module := name.toList.takeWhile (· ≠ ':')
  match name.toList.drop module.length with
  | _ :: rest => if module.isEmpty || rest.isEmpty then none else some (String.ofList module, String.ofList rest)
  | [] => none

/-- The packages that a module lies in and the module itself, outermost first, after the reversed beginning of a
name. -/
def pathsFrom (before : List Char) : List Char → List String
  | [] => [String.ofList before.reverse]
  | c :: cs =>
    let rest := pathsFrom (c :: before) cs
    if c = '.' then String.ofList before.reverse :: rest else rest

/-! ## Options -/

/-- A list of names in a sentence. -/
def enumerate : List String → String
  | [] => ""
  | [a] => a
  | [a, b] => a ++ " and " ++ b
  | names => ", ".intercalate names.dropLast ++ ", and " ++ names.getLastD ""

/-- The complaint about options that are needed and not given. -/
def missing (title : String) (names : List String) : String :=
  title ++ " missing " ++ toString names.length ++ " required positional argument" ++
    (if names.length = 1 then "" else "s") ++ ": " ++ enumerate (names.map Text.literal)

/-- The complaint about the first option that is not taken, or that has a value already. -/
def rejection? (s : Signature) (options : Options) : Option String :=
  options.findSome? fun (k, _) =>
    if s.bound = some k then some (s.title ++ " got multiple values for argument '" ++ k ++ "'")
    else if s.takesAny || s.needed.contains k || s.taken.contains k then none
    else some (s.title ++ " got an unexpected keyword argument '" ++ k ++ "'")

/-- The complaint about options that something does not take, or that it lacks. -/
def complaint? (s : Signature) (options : Options) : Option String :=
  let absent := s.needed.filter fun k => !Assoc.contains k options
  (rejection? s options).or (if absent.isEmpty then none else some (missing s.title absent))

end AgentName

open AgentName (Options)

/-! ## Making -/

/-- Something that was made: an echo agent with its delay, or another thing. -/
inductive Made (ω : Type)
  | echo (delay : Json)
  | other (thing : ω)

/-- What comes of calling something with options. -/
inductive Making (ω : Type)
  | made (m : Made ω)
  /-- It does not go with these options, or cannot be called at all. -/
  | refused (reason : String)
  | failed (f : Fault)

namespace Making

/-- The options of an echo agent. -/
def echoSignature : Signature := ⟨"EchoAgent.__init__()", some "self", [], ["chunk_delay"], false⟩

/-- The delay of an echo agent that is made without options. -/
def usualDelay : Json := .float (.zero false)

/-- An echo agent is made. -/
def ofEcho {ω : Type} (options : Options) : Making ω :=
  match AgentName.complaint? echoSignature options with
  | some reason => .refused reason
  | none => .made (.echo ((Assoc.get? "chunk_delay" options).getD usualDelay))

end Making

/-! ## Libraries -/

/-- The modules that agents can be named from, by what they hold, and the things that can be made with it. -/
structure Library (φ ω : Type) where
  /-- Whether there are modules below a module, if there is a module of a name. -/
  package? : String → Option Bool
  /-- What stands behind a name in a module. -/
  attribute? : String → String → Option φ
  /-- What comes of calling it. -/
  call : φ → Options → Making ω
  /-- The methods that a thing has. -/
  methods : ω → List String

namespace Library

variable {φ ω : Type}

/-- Goes to a module through the packages that it lies in, from a module that is there and may have others below it. The
failure tells the first that is missing. -/
def enter (l : Library φ ω) (parent : Option (String × Bool)) : List String → Except String Unit
  | [] => .ok ()
  | path :: rest =>
    match parent with
    | some (outer, false) =>
      .error ("No module named " ++ Text.literal path ++ "; " ++ Text.literal outer ++ " is not a package")
    | _ =>
      match l.package? path with
      | some isPackage => l.enter (some (path, isPackage)) rest
      | none => .error ("No module named " ++ Text.literal path)

/-- What stands behind a name in a module. -/
def find (l : Library φ ω) (module name : String) : Except String φ :=
  match l.enter none (AgentName.pathsFrom [] module.toList) with
  | .error reason => .error reason
  | .ok () =>
    match l.attribute? module name with
    | some f => .ok f
    | none => .error ("module '" ++ module ++ "' has no attribute '" ++ name ++ "'")

/-- The methods of an agent. -/
def agentMethods : List String := ["create_session", "process_prompt", "get_session_state", "resume_session"]

/-- The methods of something that was made. -/
def methodsOf (l : Library φ ω) : Made ω → List String
  | .echo _ => agentMethods
  | .other thing => l.methods thing

/-- Something that was made and has the methods of an agent. -/
structure Agent (l : Library φ ω) where
  made : Made ω
  able : ∀ method ∈ agentMethods, method ∈ l.methodsOf made

/-- The agent of a name, if an agent was made. -/
def check (l : Library φ ω) (name : String) : Making ω → Except Fault l.Agent
  | .made m =>
    if h : ∀ method ∈ agentMethods, method ∈ l.methodsOf m then .ok ⟨m, h⟩ else .error (AgentName.noAgent name)
  | .refused reason => .error (AgentName.notConstructed name reason)
  | .failed f => .error f

/-- The agent of a name. A module is named from the outermost package on. -/
def load (l : Library φ ω) (name : String) (options : Options) : Except Fault l.Agent :=
  if Assoc.contains "name" options then .error .badKind
  else if name = "echo" then l.check name (Making.ofEcho options)
  else
    match AgentName.split? name with
    | none => .error (AgentName.unknown name)
    | some (module, inner) =>
      if module.startsWith "." then .error .badKind
      else
        match l.find module inner with
        | .ok f => l.check name (l.call f options)
        | .error reason => .error (AgentName.notImported name reason)

end Library

end ChatRelay
