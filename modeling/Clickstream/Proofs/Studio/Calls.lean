import Clickstream.Studio.Basic
import Clickstream.Proofs.Capture.Run
import Clickstream.Proofs.Studio.Logs

/-
  Calls of a studio, and what each of them has the recorder
  do. A call is a run of commands for the recorder; all that
  the run records is offered to the outlet, in order.

  Key definitions:
    * `Studio.Call`, `Studio.perform`, `Studio.after`
    * `Station.Carries`: what a station does is a run of its
      recorder
    * `Studio.commands`: the run behind a call

  Key theorems:
    * `Station.Carries.append`, `Station.Carries.andSettle`
    * `Station.carries_start`, `Station.carries_submit`,
      `Station.carries_append`
-/

namespace Clickstream

open Capture (Command Recorder)

------------------------------------------------------------
-- Stations
------------------------------------------------------------

namespace Station

variable {σ : Type} [Outlet σ]
variable {station next last : Station σ}
variable {first second : List Command}
variable {heard more : List Action}

/-
  Whether a station gets somewhere by a run of its recorder
  in no time, and all that the run records is offered to the
  outlet. What the outlet takes is what is heard.
-/
structure Carries
    (station : Station σ)
    (commands : List Command)
    (step : Station σ × List Action) : Prop where
  now : step.1.now = station.now
  recorder : step.1.recorder = station.recorder.after commands
  delivery :
    Outlet.deliverAll station.outlet
        (station.recorder.history commands) =
      (step.1.outlet, step.2)

/- Doing nothing is an empty run. -/
theorem carries_nil (station : Station σ) :
    station.Carries [] (station, []) where
  now := rfl
  recorder := rfl
  delivery := rfl

/- One run after the other is a run. -/
theorem Carries.append
    (hFirst : station.Carries first (next, heard))
    (hSecond : next.Carries second (last, more)) :
    station.Carries (first ++ second)
      (last, heard ++ more) := by
  have hRecorder :
      next.recorder = station.recorder.after first :=
    hFirst.recorder
  refine ⟨hSecond.now.trans hFirst.now, ?_, ?_⟩
  · rw [Recorder.after_append, ← hRecorder]
    exact hSecond.recorder
  · rw [Recorder.history_append, ← hRecorder,
      Outlet.deliverAll_append, hFirst.delivery]
    dsimp only
    rw [hSecond.delivery]

/- Delivering what a command records is a run of it. -/
theorem carries_deliver
    (station : Station σ)
    (command : Command) :
    station.Carries [command]
      (station.deliver
        ((station.recorder.execute command).1,
          station.recorder.recorded command)) where
  now := rfl
  recorder := rfl
  delivery := by
    have hHistory :
        station.recorder.history [command] =
          station.recorder.recorded command :=
      List.append_nil _
    rw [hHistory]
    rfl

theorem carries_settleDue (station : Station σ) :
    station.Carries [.poll station.now] station.settleDue :=
  station.carries_deliver (.poll station.now)

/- Settling afterwards is a poll afterwards. -/
theorem Carries.andSettle
    (hCarries : station.Carries first (next, heard)) :
    station.Carries (first ++ [.poll station.now])
      (Station.andSettle (next, heard)) := by
  have hSettle := next.carries_settleDue
  rw [hCarries.now] at hSettle
  exact hCarries.append hSettle

theorem carries_start
    (station : Station σ)
    (address : Option String) :
    station.Carries [.start address station.now]
      (station.start address) :=
  station.carries_deliver (.start address station.now)

/- Events are handled one after the other. -/
theorem carries_submit
    (station : Station σ)
    (events : List Event) :
    station.Carries (events.map .handle)
      (station.submit events) := by
  induction events generalizing station with
  | nil => exact station.carries_nil
  | cons event events ih =>
      have hFirst := station.carries_deliver (.handle event)
      exact hFirst.append (ih _)

/- An action is appended, or refused by an idle recorder. -/
theorem carries_append
    (station : Station σ)
    (action : Action) :
    station.Carries [.append action]
      (station.append action).2 := by
  cases hPhase : station.recorder.phase with
  | idle =>
      have hExecute :=
        Recorder.execute_append_of_idle hPhase action
      have hAppend :
          station.append action = (false, station, []) := by
        unfold append Recorder.append?
        rw [hPhase]
      rw [hAppend]
      refine ⟨rfl, ?_, ?_⟩
      · rw [Recorder.after, hExecute]
        rfl
      · rw [Recorder.history, Recorder.recorded, hExecute]
        rfl
  | recording =>
      have hExecute :=
        Recorder.execute_append_of_recording hPhase action
      have hCarries :=
        station.carries_deliver (.append action)
      rw [Recorder.recorded, hExecute] at hCarries
      have hAppend :
          station.append action =
            (true, station.deliver
              (station.recorder.recordInOrder action)) := by
        unfold append Recorder.append?
        rw [hPhase]
      rw [hAppend]
      exact hCarries

end Station

------------------------------------------------------------
-- Calls
------------------------------------------------------------

/- Where an outcome leads to, and what listeners heard. -/
def Outcome.step
    {α : Type}
    (outcome : Outcome α) : Studio × List Action :=
  (outcome.studio, outcome.heard)

namespace Studio

/-
  What can happen to a studio from the outside. Time may pass
  so that all that becomes due settles, or lapse so that the
  next call comes before the recorder wakes up.
-/
inductive Call where
  | start
      (fileName : String)
      (language : Language)
      (startUrl : Option String)
  | stop
  | submit (events : List Event)
  | append (action : Action)
  | advance (duration : Nat)
  | lapse (duration : Nat)

/- The same studio at a later time. -/
def later (studio : Studio) (duration : Nat) : Studio :=
  { studio with now := studio.now + duration }

/- Where a call leads to, and what listeners hear. -/
def perform (studio : Studio) : Call → Studio × List Action
  | .start fileName language startUrl =>
      (studio.start fileName language startUrl).step
  | .stop => studio.stop.step
  | .submit events => (studio.submit events).step
  | .append action => (studio.append action).step
  | .advance duration => (studio.advance duration).step
  | .lapse duration => (studio.later duration, [])

/- The studio after calls. -/
def after (studio : Studio) : List Call → Studio
  | [] => studio
  | call :: rest => (studio.perform call).1.after rest

/- Whether a call is a start that is not refused. -/
def opens (studio : Studio) : Call → Bool
  | .start fileName language startUrl =>
      (studio.start fileName language startUrl).result.isOk
  | _ => false

/-
  What a call has the recorder do. A call that is refused or
  passed over does not get there; after any other, whatever is
  due by the clock is settled.
-/
def commands (studio : Studio) (call : Call) : List Command :=
  match call with
  | .start _ _ startUrl =>
      if studio.opens call then
        [.start
            (startUrl.filter fun url =>
              !Text.isBlankText url)
            studio.now,
          .poll studio.now]
      else []
  | .stop =>
      if studio.isRecording then [.stop, .poll studio.now]
      else []
  | .submit events =>
      events.map .handle ++ [.poll studio.now]
  | .append action =>
      if studio.isRecording then
        [.append action, .poll studio.now]
      else []
  | .advance duration => [.poll (studio.now + duration)]
  | .lapse _ => []

end Studio

end Clickstream
