import Clickstream.Capture.Recorder
import Clickstream.Studio.Outlet

/-
  Stations: a recorder with a clock and an outlet. Whatever
  the recorder records is delivered at once; what the outlet
  takes is also what listeners hear.

  Key definitions:
    * `Station`
    * `Station.settleDue`
    * `Station.start`, `Station.stop`
    * `Station.submit`, `Station.append`
    * `Station.advance`
-/

namespace Clickstream

open Capture (Recorder)

------------------------------------------------------------
-- Stations
------------------------------------------------------------

/- A recorder, the time, and where its actions go. -/
structure Station (σ : Type) where
  recorder : Recorder
  outlet : σ
  now : Nat := 0

namespace Station

variable {σ : Type} [Outlet σ]

/-
  Go on with another state of the recorder and deliver what
  was recorded on the way there. The second part is what
  listeners hear.
-/
def deliver
    (station : Station σ)
    (step : Recorder × List Action) :
    Station σ × List Action :=
  let (outlet, heard) :=
    Outlet.deliverAll station.outlet step.2
  ({ station with recorder := step.1, outlet := outlet },
    heard)

/- Settle what is due by the clock. -/
def settleDue
    (station : Station σ) : Station σ × List Action :=
  station.deliver (station.recorder.poll station.now)

/- Do something and then settle what is due by the clock. -/
def andSettle
    (result : Station σ × List Action) :
    Station σ × List Action :=
  let (station, heard) := result.1.settleDue
  (station, result.2 ++ heard)

------------------------------------------------------------
-- Operations
------------------------------------------------------------

/- Start recording at an address, if one is known. -/
def start
    (station : Station σ)
    (address : Option String) : Station σ × List Action :=
  station.deliver
    (station.recorder.start address station.now)

/- Stop recording. -/
def stop (station : Station σ) : Station σ :=
  { station with recorder := station.recorder.stop }

/- Take one event. -/
def submitOne
    (station : Station σ)
    (event : Event) : Station σ × List Action :=
  station.deliver (station.recorder.handle event)

/- Take events in order. -/
def submit
    (station : Station σ) :
    List Event → Station σ × List Action
  | [] => (station, [])
  | event :: rest =>
      let (station, first) := station.submitOne event
      let (station, others) := station.submit rest
      (station, first ++ others)

/-
  Take an action that was made elsewhere, behind the events
  that were taken before. The first part of the answer tells
  whether the recorder took it.
-/
def append
    (station : Station σ)
    (action : Action) : Bool × Station σ × List Action :=
  match station.recorder.append? action with
  | none => (false, station, [])
  | some step => (true, station.deliver step)

/-
  Let time pass. Timers fire in the order of their deadlines,
  so it makes no difference to look only at the end.
-/
def advance
    (station : Station σ)
    (duration : Nat) : Station σ × List Action :=
  { station with now := station.now + duration }.settleDue

end Station

end Clickstream
