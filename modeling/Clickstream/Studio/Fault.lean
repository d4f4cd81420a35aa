/-
  Faults: why a request is refused and why an action is not
  taken.

  Key definitions:
    * `Fault`, `Fault.message`
    * `DeliveryFault`, `DeliveryFault.message`
-/

namespace Clickstream

------------------------------------------------------------
-- Requests
------------------------------------------------------------

/-
  Why a request is refused. The session that is active already
  is told by its number.
-/
inductive Fault where
  | noActiveSession
  | sessionAlreadyActive (number : Nat)
  | invalid (reason : String)
  | recording (reason : String)
  | unexpected (reason : String)
deriving DecidableEq, Repr, Inhabited

namespace Fault

/- The wording of a fault, given the names of sessions. -/
def message (name : Nat → String) : Fault → String
  | .noActiveSession => "No recording is active"
  | .sessionAlreadyActive number =>
      "A recording is already active: " ++ name number
  | .invalid reason => "Invalid request: " ++ reason
  | .recording reason => "Recording error: " ++ reason
  | .unexpected reason => "Internal error: " ++ reason

/- A recording needs a name. -/
def nameRequired : Fault :=
  .invalid "fileName is required"

end Fault

------------------------------------------------------------
-- Deliveries
------------------------------------------------------------

/- Why an action is not taken. -/
inductive DeliveryFault where
  | inactive
  | closed
deriving DecidableEq, Repr, Inhabited

/- The wording of a delivery fault. -/
def DeliveryFault.message : DeliveryFault → String
  | .inactive => "recording session is not active"
  | .closed => "session store is closed"

end Clickstream
