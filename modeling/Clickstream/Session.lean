import Clickstream.Language
import Clickstream.Action.Basic

/-
  Sessions: one recording with its name, its language and the
  log of its actions. A stopped session never changes again.

  Key definitions:
    * `Session`, `Session.open`
    * `Session.nextTimestamp`, `Session.append?`
    * `Session.stop`
-/

namespace Clickstream

------------------------------------------------------------
-- Sessions
------------------------------------------------------------

/- One recording. `number` counts the recordings from one. -/
structure Session where
  number : Nat
  fileName : String
  language : Language
  startUrl : Option String
  actions : List Action := []
  isActive : Bool := true
deriving DecidableEq, Repr, Inhabited

namespace Session

/-
  The time an action gets in the log: its own, or one past
  the last one where it would not come after that. One past
  the last time of the clock is zero.
-/
def nextTimestamp
    (session : Session)
    (timestamp : Nat) : Nat :=
  match session.actions.getLast? with
  | none => timestamp
  | some last =>
      if timestamp ≤ last.timestamp then
        clockAfter last.timestamp 1
      else timestamp

/- Add an action at the end of the log of an active session. -/
def append?
    (session : Session)
    (action : Action) : Option Session :=
  if session.isActive then
    some { session with
      actions := session.actions ++
        [{ action with
          timestamp :=
            session.nextTimestamp action.timestamp }] }
  else
    none

/- End the session. -/
def stop (session : Session) : Session :=
  { session with isActive := false }

end Session

end Clickstream
