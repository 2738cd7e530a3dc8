import ChatRelay.Agent.Library

/-!
# Modules that an agent can be named from

- `Factory`: what stands behind a name in a module, as far as the making of an agent goes;
- `Catalog.modules`: the modules that there are, with the names in them.
-/

namespace ChatRelay

/-- What stands behind a name in a module. -/
inductive Factory
  /-- Makes an echo agent. -/
  | echo
  /-- Takes options, and then makes something that is no agent, or refuses. -/
  | other (s : Signature) (refusal : Option String)
  /-- Complains about options, and without them makes something that is no agent, or refuses. -/
  | bare (complaint : String) (refusal : Option String)
  /-- Makes an integer. -/
  | integer
  /-- Makes a text. -/
  | text
  /-- Makes nothing. -/
  | refusing (reason : String)

/-- A module: whether it has modules below it, and the names in it. -/
structure AgentModule where
  isPackage : Bool
  names : List (String × Factory)

namespace Catalog

/-- Something that cannot be called. -/
def uncallable (kind : String) : Factory := .refusing ("'" ++ kind ++ "' object is not callable")

/-- The options of the initializer of a class. -/
def initializer (name : String) (needed taken : List String) : Signature :=
  ⟨name ++ ".__init__()", some "self", needed, taken, false⟩

/-- A class with an initializer. -/
def classOf (name : String) (needed taken : List String) : String × Factory :=
  (name, .other (initializer name needed taken) none)

/-- A description of what a class can do, which is no class of things. -/
def protocol (name : String) : String × Factory :=
  (name, .other ⟨"_no_init_or_replace_init()", some "self", [], [], true⟩ (some "Protocols cannot be instantiated"))

/-- A class without options that leaves a method to others. -/
def abstraction (name method : String) : String × Factory :=
  (name, .bare (name ++ "() takes no arguments")
    (some ("Can't instantiate abstract class " ++ name ++ " with abstract method " ++ method)))

/-- Things of one kind that cannot be called. -/
def uncallables (kind : String) (names : List String) : List (String × Factory) :=
  names.map fun n => (n, uncallable kind)

/-- The names that every module has. -/
def moduleNames : List (String × Factory) :=
  uncallables "str" ["__name__", "__doc__", "__package__", "__file__", "__cached__"] ++
    uncallables "dict" ["__builtins__", "__dict__"] ++
    [("__spec__", uncallable "ModuleSpec"), ("__loader__", uncallable "SourceFileLoader")]

/-- A way to get an echo agent. -/
def echoAgent : String × Factory := ("EchoAgent", .echo)

/-- The function that finds agents. -/
def agentLoader : String × Factory := ("load_agent", .other ⟨"load_agent()", none, ["name"], [], true⟩ none)

/-- The class of everything, which has no things of its own. -/
def anything : String × Factory :=
  ("Any", .other ⟨"Any.__new__()", some "cls", [], [], true⟩ (some "Any cannot be instantiated"))

/-- The function that marks a class, which no option is. -/
def classMarker : String × Factory :=
  ("runtime_checkable", .other ⟨"runtime_checkable()", none, ["cls"], [], false⟩
    (some "issubclass() arg 1 must be a class"))

/-- The map of tabs. -/
def tabMap : String × Factory := classOf "TabSessionMap" [] []

/-- The module of the agents. -/
def agentNames : List (String × Factory) :=
  [echoAgent, agentLoader, protocol "AgentBackend", anything, abstraction "AsyncIterator" "__anext__",
    ("AgentLoadError", .bare "AgentLoadError() takes no keyword arguments" none),
    classOf "UnknownSessionError" ["session_id"] [], ("Protocol", .bare "Protocol() takes no arguments" none),
    classMarker, ("logger", uncallable "Logger"), ("_BUILTIN_AGENTS", uncallable "dict"),
    ("annotations", uncallable "_Feature")] ++
    uncallables "module" ["asyncio", "copy", "importlib", "uuid"]

/-- The module of the tabs. -/
def sessionNames : List (String × Factory) :=
  [tabMap, abstraction "Iterator" "__next__", ("logger", uncallable "Logger"), ("annotations", uncallable "_Feature")]

/-- The package of the core. -/
def coreNames : List (String × Factory) :=
  [echoAgent, agentLoader, tabMap, protocol "AgentBackend", protocol "KeyValueStore",
    classOf "MessageBuffer" ["deliver"] ["visible"],
    classOf "SessionCoordinator" ["agent", "store", "deliver"] ["visible", "state_key", "state_version"],
    classOf "JsonFileStore" ["path"] [], classOf "MemoryStore" [] ["initial"],
    classOf "StatePersistence" ["store", "agent", "sessions"] ["key", "version"],
    classOf "StreamRelay" ["agent", "emit"] [], ("__all__", uncallable "list"), ("__path__", uncallable "list")] ++
    uncallables "module" ["agent", "buffer", "constants", "coordinator", "errors", "events", "log", "persistence",
      "relay", "results", "sessions"]

/-- The package. -/
def packageNames : List (String × Factory) :=
  [("__version__", uncallable "str"), ("__path__", uncallable "list")] ++
    uncallables "module" ["core", "preferences", "web", "__main__"]

/-- The names that need no module. -/
def builtinNames : List (String × Factory) :=
  [("dict", .other ⟨"dict()", none, [], [], true⟩ none), ("int", .integer), ("str", .text)]

/-- The modules that there are. -/
def modules : List (String × AgentModule) :=
  [("symposium_chat", ⟨true, packageNames ++ moduleNames⟩), ("symposium_chat.core", ⟨true, coreNames ++ moduleNames⟩),
    ("symposium_chat.core.agent", ⟨false, agentNames ++ moduleNames⟩),
    ("symposium_chat.core.sessions", ⟨false, sessionNames ++ moduleNames⟩), ("builtins", ⟨false, builtinNames⟩)]

end Catalog

end ChatRelay
