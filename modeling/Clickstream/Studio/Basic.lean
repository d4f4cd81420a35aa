import Clickstream.Text.Blank
import Clickstream.Studio.Station

/-
  The studio: a station whose outlet holds the one session.
  It decides which requests are refused; a refused request
  changes nothing.

  Key definitions:
    * `Studio`, `Studio.new`
    * `Studio.session?`, `Studio.isRecording`
    * `Outcome`
    * `Studio.openSession`, `Studio.closeSession`: the halves
      of starting and stopping that concern the session
    * `Studio.start`, `Studio.stop`
    * `Studio.submit`, `Studio.append`, `Studio.advance`
-/

namespace Clickstream

------------------------------------------------------------
-- Studios
------------------------------------------------------------

/- A station that records into the one session. -/
abbrev Studio :=
  Station Store

/-
  What a request leads to: the state afterwards, an answer or
  a fault, and what listeners heard.
-/
structure Outcome (α : Type) where
  studio : Studio
  result : Except Fault α
  heard : List Action := []

namespace Studio

/- A studio in which nothing was recorded yet. -/
def new
    (settings : Capture.Settings)
    (now : Nat) : Studio :=
  { recorder := Capture.Recorder.new settings
    outlet := {}
    now := now }

/- The current session, or else the last one. -/
def session? (studio : Studio) : Option Session :=
  studio.outlet.session

/- Whether a session is active. -/
def isRecording (studio : Studio) : Bool :=
  studio.outlet.isActive

/- Turn a request down. -/
def refuse
    {α : Type}
    (studio : Studio)
    (fault : Fault) : Outcome α :=
  { studio := studio, result := .error fault }

/- Answer a request once everything due has settled. -/
def finish
    {α : Type}
    (step : Studio × List Action)
    (answer : α) : Outcome α :=
  let (studio, heard) := Station.andSettle step
  { studio := studio, result := .ok answer, heard := heard }

------------------------------------------------------------
-- Starting and Stopping
------------------------------------------------------------

/- Open a session; the recorder does not know of it yet. -/
def openSession
    (studio : Studio)
    (fileName : String)
    (language : Language)
    (startUrl : Option String) :
    Except Fault (Studio × Session) :=
  match studio.outlet.openSession fileName language startUrl
  with
  | .error fault => .error fault
  | .ok (store, session) =>
      .ok ({ studio with outlet := store }, session)

/- Stop the session; the recorder is not told. -/
def closeSession
    (studio : Studio) : Except Fault (Studio × Session) :=
  match studio.outlet.closeSession with
  | .error fault => .error fault
  | .ok (store, session) =>
      .ok ({ studio with outlet := store }, session)

/-
  Start a recording. It needs a name, and no other recording
  may be active; a blank address counts as none. The answer
  is the session as it was opened.
-/
def start
    (studio : Studio)
    (fileName : String)
    (language : Language)
    (startUrl : Option String) : Outcome Session :=
  match Text.nonBlank fileName with
  | none => studio.refuse .nameRequired
  | some name =>
      let address :=
        startUrl.filter (fun url => !Text.isBlankText url)
      match studio.openSession name language address with
      | .error fault => studio.refuse fault
      | .ok (opened, session) =>
          finish (Station.start opened address) session

/-
  Stop the recording. The recorder stops first, so that the
  session gets everything recorded until then. The answer is
  the session as it was stopped.
-/
def stop (studio : Studio) : Outcome Session :=
  if studio.isRecording then
    match closeSession (Station.stop studio) with
    | .error fault => studio.refuse fault
    | .ok (closed, session) => finish (closed, []) session
  else
    studio.refuse .noActiveSession

------------------------------------------------------------
-- Events and Actions
------------------------------------------------------------

/- Take events; the answer is how many there were. -/
def submit
    (studio : Studio)
    (events : List Event) : Outcome Nat :=
  finish (Station.submit studio events) events.length

/-
  Take an action that was made elsewhere. Without an active
  session it is passed over; the answer tells which.
-/
def append
    (studio : Studio)
    (action : Action) : Outcome Bool :=
  if studio.isRecording then
    let (taken, step) := Station.append studio action
    finish step taken
  else
    { studio := studio, result := .ok false }

/- Let time pass. -/
def advance
    (studio : Studio)
    (duration : Nat) : Outcome Unit :=
  let (studio, heard) := Station.advance studio duration
  { studio := studio, result := .ok (), heard := heard }

end Studio

end Clickstream
