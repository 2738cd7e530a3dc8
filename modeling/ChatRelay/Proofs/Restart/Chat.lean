import ChatRelay.Agent.Echo
import ChatRelay.Coordinator.Basic
import Mathlib.Logic.Function.Basic

/-!
# What a chat is made of

A chat as its surface sees it, apart from the objects that keep it: the tabs, the turns of their sessions, the state of
the surface, and the messages that are held back while the surface is hidden.

- `Chat`: the state of a chat;
- `Chat.stored`: the value that is stored for it;
- `Chat.step`: what a request makes of a chat, the outcome of the request and the messages that are delivered;
- `Chat.run`: the same for requests that come one after the other.
-/

namespace ChatRelay

open Coordinator (Request Outcome)

/-- The state of a chat. -/
structure Chat where
  /-- What comes before each chunk of a response. -/
  delay : Delay
  tabs : TabMap
  /-- The turns of each session. -/
  turns : String → List Json
  /-- The state that the surface handed over last, null when there is none. -/
  uiState : Json
  /-- Whether a snapshot was stored. -/
  saved : Bool
  visible : Bool
  /-- The messages that are held back. -/
  queue : List Outbound
  /-- How many session ids were given out. -/
  issued : Nat

namespace Chat

/-- A chat that has not begun. -/
def initial (delay : Delay) (visible : Bool) : Chat := ⟨delay, [], fun _ => [], .null, false, visible, [], 0⟩

/-! ## Snapshots -/

/-- The record of a tab. -/
def record (s : Chat) (b : String × String) : SessionRecord := ⟨b.1, b.2, .obj [("history", .arr (s.turns b.2))]⟩

/-- The records of all tabs. -/
def records (s : Chat) : List SessionRecord := s.tabs.map s.record

/-- The stored value, with the records of the last save: there is none before the first one. -/
def stored (s : Chat) (shelf : Shelf) (records : List SessionRecord) : Json :=
  if s.saved then (Snapshot.mk shelf.version records s.uiState).toJson else .null

/-- What comes of a save. -/
def saveResult (s : Chat) : SaveResult := ⟨Assoc.keys s.tabs, []⟩

/-- The chat after a save. -/
def save (s : Chat) (uiState : Option Json) : Chat := { s with uiState := uiState.getD s.uiState, saved := true }

/-! ## Messages -/

/-- The messages that are delivered of those that the surface is sent. -/
def shown (s : Chat) (events : List Outbound) : List Outbound := if s.visible then events else []

/-- The chat after messages were sent: they are held back while the surface is hidden. -/
def post (s : Chat) (events : List Outbound) : Chat :=
  { s with queue := if s.visible then s.queue else s.queue ++ events }

/-- The messages that bring the pieces of a response. -/
def chunks (p : Prompt) (pieces : List String) : List Outbound :=
  pieces.map fun piece => .chunk p.tab p.message (.str piece)

/-- The messages of a whole response. -/
def response (p : Prompt) (pieces : List String) : List Outbound := chunks p pieces ++ [.complete p.tab p.message]

/-! ## Requests -/

/-- What comes of a request. -/
structure Effect where
  chat : Chat
  result : Except Fault Outcome
  delivered : List Outbound

/-- A request that changes nothing. -/
def nothing (s : Chat) (result : Except Fault Outcome) : Effect := ⟨s, result, []⟩

/-- The turns of a session are replaced. -/
def setTurns (s : Chat) (session : String) (turns : List Json) : Chat :=
  { s with turns := Function.update s.turns session turns }

/-- A tab gets a new session. -/
def openTab (s : Chat) (tab session : String) : Chat :=
  { s.setTurns session [] with tabs := s.tabs.bind tab session, issued := s.issued + 1 }

/-- What the agent says to a prompt. -/
def reply (s : Chat) (p : Prompt) : String := Echo.reply ((s.turns p.session).length + 1) p.text

/-- A session has one more turn. -/
def addTurn (s : Chat) (p : Prompt) (said : String) : Chat :=
  s.setTurns p.session (s.turns p.session ++ [Echo.turnRecord p.text said])

/-- A prompt is answered whole, and the turn is kept. -/
def complete (s : Chat) (p : Prompt) : Effect :=
  let said := s.reply p
  let pieces := Echo.chunks said
  ⟨((s.post (response p pieces)).addTurn p said).save none,
    .ok (.relayCompleted p.tab p.message pieces.length s.saveResult), s.shown (response p pieces)⟩

/-- A prompt is not answered. -/
def breakOff (s : Chat) (p : Prompt) (cause : Fault) : Effect :=
  let events := [Outbound.failed p.tab p.message cause.text]
  ⟨(s.post events).save none, .ok (.relayFailure p.tab p.message cause.text 0), s.shown events⟩

/-- What comes of a prompt that has a session. -/
def answer (s : Chat) (p : Prompt) : Effect :=
  match s.delay with
  | .unusable kind => s.breakOff p (.delayNotNumber kind)
  | _ => s.complete p

/-- What restoring the stored snapshot brings back. -/
def restoration (s : Chat) : Restoration := if s.saved then .restored s.uiState (Assoc.keys s.tabs) [] else .noState

/-- What comes of a well-formed message. -/
def event (ids : Nat → String) (s : Chat) : Inbound → Effect
  | .newTab tab =>
    let session := ids s.issued
    let s := s.openTab tab session
    ⟨s.save none, .ok (.tabOpened tab session s.saveResult), []⟩
  | .prompt tab message text =>
    match s.tabs.session? tab with
    | some session => s.answer ⟨tab, message, session, text⟩
    | none => s.nothing (.ok (.missingMapping tab message))
  | .saveState state => ⟨s.save (some state), .ok (.stateSaved s.saveResult), []⟩
  | .requestSavedState => ⟨s, .ok (.stateRestored s.restoration), [.restoreState s.restoration.uiState]⟩

/-- What comes of a request. A shutdown leaves the chat to the coordinator that comes next. -/
def step [Host] (ids : Nat → String) (s : Chat) : Request → Effect
  | .inbound m =>
    match Inbound.ofJson m with
    | .ok e => s.event ids e
    | .error refusal => s.nothing (refusal.text.map .invalidEvent)
  | .hidden => ⟨{ s with visible := false }.save none, .ok (.saved s.saveResult), []⟩
  | .visible => ⟨{ s with visible := true, queue := [] }, .ok .shown, s.queue⟩
  | .shutdown => ⟨s.save none, .ok (.saved s.saveResult), []⟩

/-- The chat after requests. -/
def run [Host] (ids : Nat → String) (s : Chat) (requests : List Request) : Chat :=
  requests.foldl (fun s r => (s.step ids r).chat) s

end Chat

end ChatRelay
