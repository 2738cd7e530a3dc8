import ChatRelay.Agent.Catalog
import ChatRelay.Agent.Echo
import ChatRelay.Agent.Library
import ChatRelay.Agent.Load
import ChatRelay.Assoc
import ChatRelay.Binary64.Arithmetic
import ChatRelay.Binary64.Basic
import ChatRelay.Binary64.Shortest
import ChatRelay.CommandLine.Arguments
import ChatRelay.CommandLine.Run
import ChatRelay.Coordinator.Basic
import ChatRelay.Coordinator.Handle
import ChatRelay.Event.Inbound
import ChatRelay.Event.Outbound
import ChatRelay.Fault
import ChatRelay.Files.Disk
import ChatRelay.Files.Path
import ChatRelay.Host
import ChatRelay.Json.Basic
import ChatRelay.Json.Encoding
import ChatRelay.Json.Literal
import ChatRelay.Json.Parser
import ChatRelay.Json.Printer
import ChatRelay.Logging
import ChatRelay.Main
import ChatRelay.Notice
import ChatRelay.Outbox
import ChatRelay.Preferences.AgentLine
import ChatRelay.Preferences.Apply
import ChatRelay.Preferences.Basic
import ChatRelay.Preferences.File
import ChatRelay.Rehearsal.Backend
import ChatRelay.Rehearsal.Cue
import ChatRelay.Rehearsal.Machine
import ChatRelay.Rehearsal.World
import ChatRelay.Relay
import ChatRelay.Routine
import ChatRelay.Snapshot.Basic
import ChatRelay.Snapshot.Restore
import ChatRelay.Snapshot.Save
import ChatRelay.Store.Document
import ChatRelay.Store.KeyValue
import ChatRelay.TabMap
import ChatRelay.Text.Base64
import ChatRelay.Text.Blank
import ChatRelay.Text.Case
import ChatRelay.Text.CodeUnit
import ChatRelay.Text.DecimalDigit
import ChatRelay.Text.Line
import ChatRelay.Text.Literal
import ChatRelay.Text.Numeral
import ChatRelay.Text.Printable
import ChatRelay.Web.Call
import ChatRelay.Web.Description
import ChatRelay.Web.Response
import ChatRelay.Web.Site
import ChatRelay.Web.Surface
import ChatRelay.Yaml.Cursor
import ChatRelay.Yaml.Date
import ChatRelay.Yaml.Document
import ChatRelay.Yaml.Node
import ChatRelay.Yaml.Plain
import ChatRelay.Yaml.Scalar
import ChatRelay.Yaml.Tag
import ChatRelay.Yaml.Tagged
import ChatRelay.Yaml.Token
import ChatRelay.Yaml.Value
import ChatRelay.Proofs.Outbox.Order
import ChatRelay.Proofs.Outbox.Conservation
import ChatRelay.Proofs.Outbox.Sender
import ChatRelay.Proofs.Outbox.Events
import ChatRelay.Proofs.Outbox.Closing
import ChatRelay.Proofs.Outbox.Replays
import ChatRelay.Proofs.Schedule
import ChatRelay.Proofs.Coordinator.Scene
import ChatRelay.Proofs.Coordinator.Calls
import ChatRelay.Proofs.Coordinator.Mail
import ChatRelay.Proofs.Coordinator.Response
import ChatRelay.Proofs.Coordinator.Setting
import ChatRelay.Proofs.Coordinator.Final
import ChatRelay.Proofs.Coordinator.Binding
import ChatRelay.Proofs.Coordinator.Sight
import ChatRelay.Proofs.Web.Attendance
import ChatRelay.Proofs.Coordinator.Alone
import ChatRelay.Proofs.Coordinator.Growth
import ChatRelay.Proofs.Coordinator.Teardown
import ChatRelay.Proofs.Agent.Echo
import ChatRelay.Proofs.Binary64.Decimals
import ChatRelay.Proofs.Json.Lines
import ChatRelay.Proofs.Json.Limits
import ChatRelay.Proofs.Json.RoundTrip
import ChatRelay.Proofs.Restart.Answering
import ChatRelay.Proofs.Restart.Transparency
import ChatRelay.Proofs.Snapshot.RoundTrip
import ChatRelay.Proofs.Snapshot.Repetition
import ChatRelay.Proofs.Coordinator.Foreign
import ChatRelay.Proofs.Coordinator.Play
import ChatRelay.Proofs.Coordinator.Owing
import ChatRelay.Proofs.Coordinator.Rest
import ChatRelay.Proofs.Coordinator.Cut
import ChatRelay.Proofs.Store.Refinement
import ChatRelay.Proofs.Coordinator.Ensemble
import ChatRelay.Proofs.Coordinator.Ownership
import ChatRelay.Proofs.Coordinator.Housing
import ChatRelay.Proofs.Coordinator.Talking
import ChatRelay.Proofs.Coordinator.Isolation
import ChatRelay.Proofs.Yaml.Sheet
import ChatRelay.Proofs.Yaml.Lexing
import ChatRelay.Proofs.Yaml.Composing
import ChatRelay.Proofs.Yaml.Contents
import ChatRelay.Proofs.Yaml.Settings
import ChatRelay.Proofs.Preferences.Reading
import ChatRelay.Proofs.Preferences.Lines
import ChatRelay.Proofs.Preferences.Naming
import ChatRelay.Proofs.Preferences.Editing
import ChatRelay.Proofs.Preferences.Renaming
import ChatRelay.Proofs.Relay.Dialogue
import ChatRelay.Proofs.Agent.Turns
import ChatRelay.Proofs.Json.Refusals
import ChatRelay.Proofs.Files.Reading
import ChatRelay.Proofs.Store.Broken
import ChatRelay.Proofs.Preferences.Items
import ChatRelay.Proofs.Preferences.Loading
import ChatRelay.Proofs.Files.Contents
import ChatRelay.Proofs.Store.Atomicity
import ChatRelay.Proofs.Preferences.Places
import ChatRelay.Proofs.Preferences.Saving
import ChatRelay.Proofs.Preferences.OnePlace
import ChatRelay.Proofs.Preferences.Repeating
import ChatRelay.Proofs.Event.Grammar
import ChatRelay.Proofs.Coordinator.Dropping
import ChatRelay.Proofs.Json.Sorting
import ChatRelay.Proofs.Store.RoundTrip
import ChatRelay.Proofs.Text.Case
import ChatRelay.Proofs.Files.Path
import ChatRelay.Proofs.Preferences.FixedPoint
import ChatRelay.Proofs.Agent.Loading
import ChatRelay.Proofs.Agent.Chunks
