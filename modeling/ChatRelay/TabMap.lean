import ChatRelay.Assoc
import ChatRelay.Notice

/-!
# Tabs and their sessions

- `TabMap`: each tab with the one session it is bound to, in the order in which the tabs came;
- `TabMap.bind`: binds a tab, in its old place when it is bound already. A session that another tab has is bound all
  the same, with a warning.
-/

namespace ChatRelay

/-- The tabs and the sessions they are bound to. -/
abbrev TabMap := List (String × String)

namespace TabMap

/-- The session of a tab. -/
def session? (tabs : TabMap) (tab : String) : Option String := Assoc.get? tab tabs

/-- The first other tab that is bound to a session. -/
def otherTab? (tabs : TabMap) (tab session : String) : Option String :=
  (tabs.find? fun b => b.2 = session ∧ b.1 ≠ tab).map (·.1)

/-- What binding a tab has to report. -/
def bindNotices (tabs : TabMap) (tab session : String) : List Notice :=
  (match tabs.otherTab? tab session with
    | some other => [.sharedSession session other tab]
    | none => []) ++
  (match tabs.session? tab with
    | some previous => if previous = session then [] else [.rebound tab previous session]
    | none => [])

/-- Binds a tab to a session. -/
def bind (tabs : TabMap) (tab session : String) : TabMap := Assoc.put tab session tabs

end TabMap

end ChatRelay
