import ChatRelay.Json.Basic

/-!
# Messages to the surface

- `Outbound`: what a surface is told;
- `Outbound.toJson`: the message on the wire, with its members in a fixed order.
-/

namespace ChatRelay

/-- A message to a surface. -/
inductive Outbound
  /-- A piece of a response, passed through as the agent gave it. -/
  | chunk (tab message : String) (piece : Json)
  /-- The response is complete. -/
  | complete (tab message : String)
  /-- The response failed; sent in place of its completion. -/
  | failed (tab message error : String)
  /-- The state that the surface handed over last, null when there is none. -/
  | restoreState (state : Json)

namespace Outbound

/-- The word that names the kind of a message on the wire. -/
def type : Outbound → String
  | .chunk .. => "response-chunk"
  | .complete .. => "response-complete"
  | .failed .. => "response-error"
  | .restoreState _ => "restore-state"

/-- What a message holds besides its kind. -/
def members : Outbound → List (String × Json)
  | .chunk tab message piece => [("tabId", .str tab), ("messageId", .str message), ("chunk", piece)]
  | .complete tab message => [("tabId", .str tab), ("messageId", .str message)]
  | .failed tab message error => [("tabId", .str tab), ("messageId", .str message), ("error", .str error)]
  | .restoreState state => [("state", state)]

/-- The message on the wire. -/
def toJson (e : Outbound) : Json := .obj (("type", .str e.type) :: e.members)

/-- The name of the kind of a message in notices. -/
def name : Outbound → String
  | .chunk .. => "ResponseChunk"
  | .complete .. => "ResponseComplete"
  | .failed .. => "ResponseError"
  | .restoreState _ => "RestoreState"

end Outbound

end ChatRelay
