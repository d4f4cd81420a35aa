import Clickstream.Capture.Timers
import Clickstream.Capture.Sanitise
import Clickstream.Capture.Interpret

/-
  The recorder: a machine that turns events, in the order in
  which they arrive, into recorded actions. It knows no clock
  but the times of the events and of the polls.

  Key definitions:
    * `Phase`
    * `Recorder`
    * `Recorder.start`, `Recorder.stop`
    * `Recorder.record`: the checks every action goes through
    * `Recorder.settle`: the checks of an action that waited
    * `Recorder.poll`, `Recorder.flush`
    * `Recorder.handle`, `Recorder.append?`
-/

namespace Clickstream

namespace Capture

------------------------------------------------------------
-- States
------------------------------------------------------------

/- Whether actions are recorded at the moment. -/
inductive Phase where
  | idle
  | recording
deriving DecidableEq, Repr, Inhabited

/-
  The state of a recorder. `location` is the last known
  address of the page, `lastNavigation` the address of the
  last recorded navigation; `lastValues` holds what was last
  typed into each field, before anything was hidden.
-/
structure Recorder where
  settings : Settings
  phase : Phase := .idle
  location : Option String := none
  timers : Timers TimerKey Action := Timers.empty
  lastRecorded : Option Action := none
  lastNavigation : Option String := none
  lastValues : List (Field × String) := []
  lastScroll : Int × Int := (0, 0)
deriving DecidableEq, Repr, Inhabited

namespace Recorder

/- A recorder that has seen nothing yet. -/
def new (settings : Settings) : Recorder :=
  { settings := settings }

/- Whether actions are recorded at the moment. -/
def isRecording (r : Recorder) : Bool :=
  r.phase = .recording

/- What was last typed into a field. -/
def lastValue?
    (r : Recorder)
    (field : Field) : Option String :=
  (r.lastValues.find? (fun entry => entry.1 = field)).map (·.2)

/- Remember what was typed into a field. -/
def rememberValue
    (r : Recorder)
    (field : Field)
    (value : String) : Recorder :=
  { r with
    lastValues := (field, value) ::
      r.lastValues.filter (fun entry => entry.1 ≠ field) }

------------------------------------------------------------
-- Recording
------------------------------------------------------------

/-
  Whether an action repeats the one before it: within the
  window, on the same target. Two ways to send a form in the
  window are one.
-/
def isRepeated
    (settings : Settings)
    (last action : Action) : Bool :=
  last.elapsed action < settings.duplicateWindow &&
    ((last.kind = .submit && action.kind = .submit) ||
      last.SameTarget action)

/- Whether a navigation goes where the last one went. -/
def isDeadNavigation
    (r : Recorder)
    (action : Action) : Bool :=
  action.isNavigation && action.url.isSome &&
    action.url = r.lastNavigation

/- Whether an action repeats the last recorded one. -/
def isDuplicate
    (r : Recorder)
    (action : Action) : Bool :=
  !action.isNavigation &&
    (match r.lastRecorded with
    | some last => isRepeated r.settings last action
    | none => false)

/- What a recorded action tells about where the page is. -/
def follow
    (r : Recorder)
    (action : Action) : Recorder :=
  if action.isNavigation then
    { r with
      lastNavigation := action.url
      location := action.url.or r.location }
  else r

/-
  Record an action, unless it is a dead navigation or a
  duplicate. What is recorded is fit to be seen.
-/
def record
    (r : Recorder)
    (action : Action) : Recorder × Option Action :=
  if r.isDeadNavigation action || r.isDuplicate action then
    (r, none)
  else
    let seen := r.settings.sanitise action
    ({ r.follow action with lastRecorded := some seen },
      some seen)

------------------------------------------------------------
-- Settling
------------------------------------------------------------

/- Record typed text, unless the field held it already. -/
def settleTyping
    (r : Recorder)
    (field : Field)
    (action : Action) : Recorder × Option Action :=
  let value := action.valueText?.getD ""
  if r.lastValue? field = some value then (r, none)
  else
    match r.record action with
    | (r, some seen) =>
        (r.rememberValue field value, some seen)
    | (r, none) => (r, none)

/- Record a scroll that went far enough from the last one. -/
def settleScroll
    (r : Recorder)
    (action : Action) : Recorder × Option Action :=
  if scrollDistance r.lastScroll action.position ≤
      r.settings.scrollThreshold then (r, none)
  else
    match r.record action with
    | (r, some seen) =>
        ({ r with lastScroll := action.position }, some seen)
    | (r, none) => (r, none)

/-
  What becomes of an action that has waited long enough. When
  nothing is recorded any more it is forgotten.
-/
def settle
    (r : Recorder)
    (key : TimerKey)
    (action : Action) : Recorder × Option Action :=
  match r.phase, key with
  | .idle, _ => (r, none)
  | .recording, .typing field => r.settleTyping field action
  | .recording, .hover => r.record action
  | .recording, .scroll => r.settleScroll action

/- Settle one action after the other. -/
def settleAll
    (r : Recorder) :
    List (TimerKey × Action) → Recorder × List Action
  | [] => (r, [])
  | (key, action) :: rest =>
      let (r, first) := r.settle key action
      let (r, others) := r.settleAll rest
      (r, first.toList ++ others)

------------------------------------------------------------
-- Operations
------------------------------------------------------------

/-
  Start recording at an address, if one is known; going there
  is the first action. What an earlier recording left behind
  is forgotten.
-/
def start
    (r : Recorder)
    (address : Option String)
    (now : Nat) : Recorder × List Action :=
  let fresh : Recorder :=
    { settings := r.settings
      phase := .recording
      location := address
      timers := r.timers.clear }
  match address with
  | none => (fresh, [])
  | some url =>
      let (r, first) :=
        fresh.record (Action.navigate url none now)
      (r, first.toList)

/- Stop recording. What still waits is left to expire. -/
def stop (r : Recorder) : Recorder :=
  { r with phase := .idle }

/- Settle what is due. -/
def poll
    (r : Recorder)
    (now : Nat) : Recorder × List Action :=
  let (timers, fired) := r.timers.takeDue now
  { r with timers := timers }.settleAll fired

/- Settle everything that waits. -/
def flush (r : Recorder) : Recorder × List Action :=
  let (timers, fired) := r.timers.drain
  { r with timers := timers }.settleAll fired

/-
  Record an action behind everything that happened before it:
  what waits is settled first.
-/
def recordInOrder
    (r : Recorder)
    (action : Action) : Recorder × List Action :=
  let (r, flushed) := r.flush
  let (r, recorded) := r.record action
  (r, flushed ++ recorded.toList)

/-
  Take an action that was made elsewhere. Nothing is taken
  while nothing is recorded.
-/
def append?
    (r : Recorder)
    (action : Action) : Option (Recorder × List Action) :=
  match r.phase with
  | .idle => none
  | .recording => some (r.recordInOrder action)

/- A mutation makes the address of the page known. -/
def observe
    (r : Recorder)
    (event : Event) : Recorder :=
  match event.occurrence with
  | .mutation address => { r with location := some address }
  | _ => r

/- Act upon an event in normal form. -/
def react
    (r : Recorder)
    (event : Event) : Recorder × List Action :=
  match r.settings.interpret r.location event with
  | .ignore => (r, [])
  | .settle key deadline action =>
      ({ r with
        timers := r.timers.schedule key deadline action }, [])
  | .record action => (r.observe event).recordInOrder action

/-
  Take an event. What is due by then is settled first; while
  nothing is recorded the event itself is passed over.
-/
def handle
    (r : Recorder)
    (event : Event) : Recorder × List Action :=
  let (r, fired) := r.poll event.timestamp
  match r.phase with
  | .idle => (r, fired)
  | .recording =>
      let (r, recorded) := r.react event.normalise
      (r, fired ++ recorded)

end Recorder

end Capture

end Clickstream
