import ChatRelay.Json.Literal

/-!
# Notices

- `Notice`: what the program reports about its own work;
- `Notice.level` and `Notice.text`: how loud a notice is and how it reads.
-/

namespace ChatRelay

/-- How loud a notice is. -/
inductive Level
  | debug
  | info
  | warning
  | error

/-- The name of a level. -/
def Level.name : Level → String
  | .debug => "DEBUG"
  | .info => "INFO"
  | .warning => "WARNING"
  | .error => "ERROR"

/-- The rank of a level: a logger set to a rank keeps the notices that reach it. -/
def Level.rank : Level → Int
  | .debug => 10
  | .info => 20
  | .warning => 30
  | .error => 40

/-- A report of the program about its own work. -/
inductive Notice
  -- the outbox
  | droppedAfterClose (event : String)
  | buffered (event : String) (queued : Nat)
  | replayed (count : Nat)
  -- the tab map
  | sharedSession (session otherTab tab : String)
  | rebound (tab previous session : String)
  -- the relay
  | relayFinished (message tab : String) (chunks : Nat)
  -- the snapshot
  | stateUnreadable (session tab error : String)
  | snapshotSaved (version : Int) (sessions failures : Nat)
  | snapshotNotObject
  | snapshotDiscarded (found : Json) (expected : Int)
  | recordSkipped (tab : String)
  | tabLive (tab live stored : String)
  | resumeFailed (session tab error : String)
  | restored (tabs : Nat)
  -- the store
  | storeUnreadable (path : String)
  | storeNotObject (path : String)
  -- the coordinator
  | inboundAfterShutdown
  | inboundDropped (reason : String)
  | sessionCreated (session tab : String)
  | promptDropped (tab message : String)
  | responseFailed (tab : String)
  | surfaceHidden
  | replaying (count : Nat)
  | undelivered (count : Nat)
  -- the echo agent
  | echoCreated (session : String)
  | echoResumed (session : String) (turns : Nat)
  -- the web surface
  | noSocket (type : String)
  | sendFailed
  | socketReplaced
  | handlerFailed
  | clientDisconnected
  | socketError
  | agentSelected (name : String)
  -- the preferences
  | preferencesNotMapping (path : String)
  | preferencesUnreadable (path : String)
  | defaultsNotWritten (path : String)
  | agentNotSaved (path : String)
  -- the command line
  | fatal

namespace Notice

/-- How loud a notice is. -/
def level : Notice → Level
  | droppedAfterClose _ | buffered _ _ | replayed _ | rebound _ _ _ | relayFinished _ _ _ | snapshotSaved _ _ _
  | surfaceHidden | echoCreated _ | echoResumed _ _ | noSocket _ | sendFailed | defaultsNotWritten _ | fatal => .debug
  | tabLive _ _ _ | restored _ | sessionCreated _ _ | replaying _ | socketReplaced | clientDisconnected
  | agentSelected _ => .info
  | sharedSession _ _ _ | stateUnreadable _ _ _ | snapshotNotObject | snapshotDiscarded _ _ | recordSkipped _
  | resumeFailed _ _ _ | storeUnreadable _ | storeNotObject _ | inboundAfterShutdown | inboundDropped _
  | promptDropped _ _ | undelivered _ | preferencesNotMapping _ | preferencesUnreadable _ | agentNotSaved _ => .warning
  | responseFailed _ | handlerFailed | socketError => .error

/-- How a notice reads. -/
def text : Notice → String
  | droppedAfterClose event => "buffer closed; dropping " ++ event
  | buffered event n => "buffering " ++ event ++ " (surface hidden, " ++ toString n ++ " queued)"
  | replayed n => "replayed " ++ toString n ++ " buffered message(s)"
  | sharedSession session otherTab tab =>
    "session " ++ session ++ " is already bound to tab " ++ otherTab ++ "; binding to " ++ tab ++ " too"
  | rebound tab previous session => "tab " ++ tab ++ " rebound from " ++ previous ++ " to " ++ session
  | relayFinished message tab n =>
    "relay " ++ message ++ " on tab " ++ tab ++ " finished with " ++ toString n ++ " chunk(s)"
  | stateUnreadable session tab error =>
    "could not read state of session " ++ session ++ " (tab " ++ tab ++ "); omitting it: " ++ error
  | snapshotSaved version n m =>
    "saved snapshot v" ++ toString version ++ " with " ++ toString n ++ " session(s), " ++ toString m ++ " failure(s)"
  | snapshotNotObject => "stored snapshot is not an object; ignoring it"
  | snapshotDiscarded found expected =>
    "discarding stored snapshot: version " ++ found.literal ++ ", expected " ++ toString expected
  | recordSkipped tab => "skipping malformed session record for tab " ++ tab
  | tabLive tab live stored => "tab " ++ tab ++ " is live on session " ++ live ++ "; ignoring stored " ++ stored
  | resumeFailed session tab error => "could not resume session " ++ session ++ " for tab " ++ tab ++ ": " ++ error
  | restored n => "restored " ++ toString n ++ " tab(s) from snapshot"
  | storeUnreadable path => "unreadable store " ++ path ++ "; using defaults"
  | storeNotObject path => "ignoring non-object store contents in " ++ path
  | inboundAfterShutdown => "coordinator is shut down; dropping inbound message"
  | inboundDropped reason => "dropping inbound message: " ++ reason
  | sessionCreated session tab => "created session " ++ session ++ " for tab " ++ tab
  | promptDropped tab message => "no session for tab " ++ tab ++ "; dropping prompt " ++ message
  | responseFailed tab => "response stream failed for tab " ++ tab
  | surfaceHidden => "surface hidden; buffering outbound messages"
  | replaying n => "replaying " ++ toString n ++ " buffered message(s)"
  | undelivered n => "dropping " ++ toString n ++ " undelivered message(s) at shutdown"
  | echoCreated session => "echo agent created session " ++ session
  | echoResumed session n => "echo agent resumed session " ++ session ++ " with " ++ toString n ++ " turn(s)"
  | noSocket type => "no websocket attached; dropping " ++ type
  | sendFailed => "WebSocket send failed"
  | socketReplaced => "replacing previously attached websocket"
  | handlerFailed => "inbound handler failed"
  | clientDisconnected => "WebSocket client disconnected"
  | socketError => "WebSocket error"
  | agentSelected name => "agent set to " ++ name ++ "; takes effect on restart"
  | preferencesNotMapping path => "ignoring preferences in " ++ path ++ ": not a mapping"
  | preferencesUnreadable path => "could not read preferences from " ++ path ++ "; using defaults"
  | defaultsNotWritten path => "could not write default preferences to " ++ path
  | agentNotSaved path => "could not save agent preference to " ++ path
  | fatal => "Fatal error in symposium-chat"

/-- A notice as a line of the log. -/
def line (n : Notice) : String := n.level.name ++ " " ++ n.text

end Notice

end ChatRelay
