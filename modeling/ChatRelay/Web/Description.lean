import ChatRelay.Json.Basic

/-!
# The description of the site

- `Schema`: the form of a JSON value, and `Schema.toJson`: how it is described;
- `Operation`: what can be asked of the site, and `Operation.all`;
- `Description.document`: the description of all operations that the site gives to its clients.
-/

namespace ChatRelay

/-- The form of a JSON value, with a title where it has one. -/
inductive Schema
  | text (title : Option String)
  | integer
  | anything (title : String)
  /-- A value of one of two forms. -/
  | either (a b : Schema)
  | list (item : Schema) (title : String)
  /-- An object of any members, told whether it says so. -/
  | object (isTold : Bool) (title : String)
  /-- An object of known members, of which some are needed. -/
  | record (members : List (String × Schema)) (needed : List String) (title : String)
  /-- The form of a name. -/
  | named (name : String)

namespace Schema

/-- The title of a form. -/
def titled (title : String) : String × Json := ("title", .str title)

/-- The kind of a form. -/
def ofType (name : String) : String × Json := ("type", .str name)

/-- The members that tell which members of an object are needed. -/
def needs : List String → List (String × Json)
  | [] => []
  | names => [("required", .arr (names.map .str))]

mutual

/-- How a form is described. -/
def toJson : Schema → Json
  | .text title => .obj (ofType "string" :: (title.map titled).toList)
  | .integer => .obj [ofType "integer"]
  | .anything title => .obj [titled title]
  | .either a b => .obj [("anyOf", .arr [a.toJson, b.toJson])]
  | .list item title => .obj [("items", item.toJson), ofType "array", titled title]
  | .object isTold title =>
    .obj ((if isTold then [("additionalProperties", .bool true)] else []) ++ [ofType "object", titled title])
  | .record members needed title =>
    .obj ([("properties", .obj (describeMembers members)), ofType "object"] ++ needs needed ++ [titled title])
  | .named name => .obj [("$ref", .str ("#/components/schemas/" ++ name))]

/-- How the members of an object are described. -/
def describeMembers : List (String × Schema) → List (String × Json)
  | [] => []
  | (name, s) :: rest => (name, s.toJson) :: describeMembers rest

end

end Schema

/-- What can be asked of the site. -/
structure Operation where
  path : String
  method : String
  /-- The name that no other operation has. -/
  id : String
  summary : String
  explanation : Option String
  /-- The name of the form that the request has, if it has one. -/
  request : Option String
  /-- The content type and the form of the response. -/
  response : String × Schema

namespace Operation

/-- An operation that is answered with an object. -/
def answeringObject (path method id summary : String) (explanation request : Option String) (title : String) :
    Operation :=
  ⟨path, method, id, summary, explanation, request, ("application/json", .object true title)⟩

/-- The name of the form of a request for another agent. -/
def choiceForm : String := "Body_set_agent_api_config_agent_put"

/-- The operations of the site. -/
def all : List Operation := [
  ⟨"/", "get", "index__get", "Index", some "Serve the page that mounts the chat bundle.", none,
    ("text/html", .text none)⟩,
  answeringObject "/api/state" "get" "inspect_state_api_state_get" "Inspect State"
    (some "Raw persisted snapshot, for debugging.") none "Response Inspect State Api State Get",
  answeringObject "/api/config" "get" "config_api_config_get" "Config" none none "Response Config Api Config Get",
  answeringObject "/api/config/agent" "put" "set_agent_api_config_agent_put" "Set Agent"
    (some "Select the agent backend.  The running agent is kept until restart.") (some choiceForm)
    "Response Set Agent Api Config Agent Put"]

/-- The member for a form of a content type. -/
def content (contentType : String) (s : Schema) : String × Json :=
  ("content", .obj [(contentType, .obj [("schema", s.toJson)])])

/-- The description of a response. -/
def describeResponse (status explanation contentType : String) (s : Schema) : String × Json :=
  (status, .obj [("description", .str explanation), content contentType s])

/-- The description of an operation. One with a request of a form tells what follows if the request has another. -/
def toJson (o : Operation) : Json :=
  let told := [("summary", .str o.summary)] ++ (o.explanation.map fun text => ("description", .str text)).toList
  let asked := (o.request.map fun form =>
    ("requestBody", Json.obj [content "application/json" (.named form), ("required", .bool true)])).toList
  let refused := (o.request.map fun _ =>
    describeResponse "422" "Validation Error" "application/json" (.named "HTTPValidationError")).toList
  let answered := describeResponse "200" "Successful Response" o.response.1 o.response.2
  .obj (told ++ [("operationId", .str o.id)] ++ asked ++ [("responses", .obj (answered :: refused))])

end Operation

namespace Description

/-- The forms that have a name. -/
def forms : List (String × Schema) := [
  (Operation.choiceForm, .record [("name", .text (some "Name"))] ["name"] Operation.choiceForm),
  ("HTTPValidationError", .record [("detail", .list (.named "ValidationError") "Detail")] [] "HTTPValidationError"),
  ("ValidationError", .record
    [("loc", .list (.either (.text none) .integer) "Location"), ("msg", .text (some "Message")),
      ("type", .text (some "Error Type")), ("input", .anything "Input"), ("ctx", .object false "Context")]
    ["loc", "msg", "type"] "ValidationError")]

/-- The description of all operations. -/
def document : Json := .obj [
  ("openapi", .str "3.1.0"),
  ("info", .obj [("title", .str "Symposium Chat"), ("version", .str "0.1.0")]),
  ("paths", .obj (Operation.all.map fun o => (o.path, .obj [(o.method, o.toJson)]))),
  ("components", .obj [("schemas", .obj (Schema.describeMembers forms))])]

end Description

end ChatRelay
