import Clickstream.Service.Request

/-
  Routes: which paths there are, and with which methods they
  can be asked for.

  Key definitions:
    * `Endpoint`
    * `Endpoint.ofPath?`
    * `Endpoint.allows`
-/

namespace Clickstream

/- What can be asked for. -/
inductive Endpoint where
  | health
  | start
  | stop
  | events
  | actions
  | status
  | generate
  | feed (client : String)
deriving DecidableEq, Repr, Inhabited

namespace Endpoint

------------------------------------------------------------
-- Paths
------------------------------------------------------------

/- The path of a feed names its client. -/
def feedOfPath? (path : String) : Option Endpoint :=
  match Service.after? "/ws/".toList path.toList with
  | some client =>
      if client ≠ [] ∧ '/' ∉ client then
        some (.feed (String.ofList client))
      else none
  | none => none

/- The endpoint at a path. -/
def ofPath? (path : String) : Option Endpoint :=
  match path with
  | "/health" => some .health
  | "/recording/start" => some .start
  | "/recording/stop" => some .stop
  | "/recording/events" => some .events
  | "/recording/actions" => some .actions
  | "/recording/status" => some .status
  | "/generate" => some .generate
  | other => feedOfPath? other

------------------------------------------------------------
-- Methods
------------------------------------------------------------

/- Whether an endpoint is only read. -/
def isReading : Endpoint → Bool
  | .health | .status | .feed _ => true
  | .start | .stop | .events | .actions | .generate => false

/- The methods of an endpoint. -/
def allows
    (endpoint : Endpoint)
    (method : String) : Bool :=
  if endpoint.isReading then method = "GET" || method = "HEAD"
  else method = "POST"

end Endpoint

end Clickstream
