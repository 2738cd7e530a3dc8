import ChatRelay.Json.Literal

/-!
# Messages from the surface

- `Inbound`: what a surface asks for;
- `Inbound.ofJson`: the request that a message makes. A message is an object whose `type` names the request and whose
  other members hold its texts; members that the request does not need are ignored;
- `Inbound.Refusal`: why a message makes no request, and the text that says so. The text shows the type of a message, so
  there is none when the host turns the type into no text.
-/

namespace ChatRelay

/-- A request from a surface. -/
inductive Inbound
  /-- A tab was opened. -/
  | newTab (tab : String)
  /-- The user sent a prompt from a tab. -/
  | prompt (tab message text : String)
  /-- The surface hands over its own state to be kept. -/
  | saveState (state : Json)
  /-- The surface starts and asks for what was kept. -/
  | requestSavedState

namespace Inbound

/-- Why a message makes no request. -/
inductive Refusal
  | notObject (message : Json)
  | unknownType (type : Json)
  | missingText (type field : String)

/-- The text that tells why a message was refused. -/
def Refusal.text [Host] : Refusal → Except Fault String
  | .notObject m => .ok ("expected a JSON object, got " ++ m.kind)
  | .unknownType t => t.shown.map ("unknown event type: " ++ ·)
  | .missingText t field => .ok (Text.literal t ++ " event needs a string " ++ Text.literal field)

/-- The string in a field of a message. -/
def requireText (type field : String) (m : Json) : Except Refusal String :=
  match m.get? field with
  | some (.str s) => .ok s
  | _ => .error (.missingText type field)

/-- The request that a message makes. -/
def ofJson (m : Json) : Except Refusal Inbound :=
  match m with
  | .obj _ =>
    match m.getD "type" with
    | .str "new-tab" => do
      return .newTab (← requireText "new-tab" "tabId" m)
    | .str "prompt" => do
      let tab ← requireText "prompt" "tabId" m
      let message ← requireText "prompt" "messageId" m
      let text ← requireText "prompt" "prompt" m
      return .prompt tab message text
    | .str "save-state" => .ok (.saveState (m.getD "state"))
    | .str "request-saved-state" => .ok .requestSavedState
    | type => .error (.unknownType type)
  | _ => .error (.notObject m)

end Inbound

end ChatRelay
