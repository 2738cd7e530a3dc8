import ChatRelay.Files.Path
import ChatRelay.Json.Basic

/-!
# Paths and responses of the site

- `Response`: a status, a content type and a JSON value;
- `Resource`: what a path leads to, and `Resource.ofPath`;
- `Resource.allows`: the methods that a resource knows.

A path that leads to nothing, but would with a slash at its end, or without those that are there, is redirected. A
line feed at the end of a path does not count.
-/

namespace ChatRelay

/-- The response to a request. -/
structure Response where
  status : Nat
  /-- The type of the content, empty where there is no content. Nothing is said of the files for the page. -/
  contentType : Option String
  body : Option Json

namespace Response

/-- The content type of JSON. -/
def jsonType : String := "application/json"

/-- A JSON value. -/
def json (status : Nat) (body : Json) : Response := ⟨status, some jsonType, some body⟩

/-- The explanation of a failure. -/
def detail (status : Nat) (text : String) : Response := json status (.obj [("detail", .str text)])

/-- A page. -/
def page : Response := ⟨200, some "text/html", none⟩

/-- A status alone. -/
def bare (status : Nat) : Response := ⟨status, none, none⟩

/-- The page is elsewhere. -/
def moved : Response := ⟨307, some "", none⟩

/-- The request held no agent name. -/
def invalid : Response := ⟨422, some jsonType, none⟩

end Response

/-- What a path leads to. -/
inductive Resource
  /-- The page that the chat runs in. -/
  | page
  /-- A page about the site itself. -/
  | manual
  /-- The description of the site for programs. -/
  | description
  /-- A file for the page, or none of that name. -/
  | asset (found : Bool)
  | state
  | config
  | agentChoice
  | redirect
  | nothing
deriving DecidableEq

namespace Resource

/-- A relative path with the steps up taken. A step up that leads out stays. -/
def normalize : List String → List String → List String
  | before, [] => before.reverse
  | b :: before, ".." :: rest => if b = ".." then normalize (".." :: b :: before) rest else normalize before rest
  | [], ".." :: rest => normalize [".."] rest
  | before, part :: rest => normalize (part :: before) rest

/-- Where the files for the page lie. -/
def assetRoot : String := "/static/"

/-- Where the files for the page lie on the disk, innermost directory first. -/
def assetPlace : List String := ["static", "web", "symposium_chat"]

/-- Where a relative path leads from a place, whose innermost directory comes first. -/
def climb : List String → List String → Option (List String)
  | place, [] => some place
  | [], ".." :: _ => none
  | _ :: place, ".." :: rest => climb place rest
  | place, part :: rest => climb (part :: place) rest

/-- Whether a path below the place of the files leads to one of them, perhaps through directories around that place. It
ends at a null character, after its steps up were taken. -/
def isAsset (path : String) : Bool :=
  climb assetPlace (Path.upToNul (normalize [] (Path.ofString path).parts)) = some ("webview.js" :: assetPlace)

/-- The path without a line feed at its end, which does not count. -/
def withoutLineFeed (path : String) : String := if path.endsWith "\n" then (path.dropEnd 1).toString else path

/-- The path below the place of the files, if a path leads there. -/
def belowAssets? (path : String) : Option String :=
  if path.startsWith assetRoot && !(withoutLineFeed path).contains '\n' then
    some (path.drop assetRoot.length).toString
  else none

/-- What a path leads to without a redirection. -/
def find? (path : String) : Option Resource :=
  match withoutLineFeed path with
  | "/" => some .page
  | "/docs" | "/docs/oauth2-redirect" | "/redoc" => some .manual
  | "/openapi.json" => some .description
  | "/api/state" => some .state
  | "/api/config" => some .config
  | "/api/config/agent" => some .agentChoice
  | _ => (belowAssets? path).map fun file => .asset (isAsset file)

/-- A path with a slash at its end, or without those at its end. -/
def toggleSlash (path : String) : String :=
  if path.endsWith "/" then (path.dropEndWhile (· = '/')).toString else path ++ "/"

/-- What a path leads to. -/
def ofPath (path : String) : Resource :=
  match find? path with
  | some r => r
  | none => if path ≠ "/" && (find? (toggleSlash path)).isSome then .redirect else .nothing

/-- Whether a resource knows a method. -/
def allows (method : String) : Resource → Bool
  | .page | .state | .config => method = "GET"
  | .manual | .description | .asset _ => method = "GET" || method = "HEAD"
  | .agentChoice => method = "PUT"
  | .redirect | .nothing => true

end Resource

end ChatRelay
