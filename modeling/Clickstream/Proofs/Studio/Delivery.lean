import Clickstream.Proofs.Capture.Isolation
import Clickstream.Proofs.Studio.Calls

/-
  Delivery: the log of the session is what the recorder has
  recorded since the session began. The store and the recorder
  agree on whether anything is recorded, so nothing comes to
  a store that does not take it.

  Key definitions:
    * `Studio.Agrees`
    * `Studio.Delivers`: what holds of a call
    * `Studio.emittedSince`: what was recorded since the
      session began

  Key theorems:
    * `Studio.Agrees.delivers`
    * `Studio.Agrees.delivers_perform`, `Studio.Agrees.after`
    * `Studio.current?_perform`
    * `Studio.actions_eq_raise_emittedSince`
-/

namespace Clickstream

open Capture (Command Phase Recorder)

------------------------------------------------------------
-- Agreement
------------------------------------------------------------

namespace Studio

variable {studio : Studio}
variable {before : List Action}
variable {run : List Command}
variable {step : Studio × List Action}

/- Which session the current one is. -/
def current? (studio : Studio) : Option Nat :=
  studio.outlet.current?

/-
  Whether the store goes along with the recorder: a session
  is active while actions are recorded, and the log of the
  current session holds what was recorded for it.
-/
structure Agrees
    (studio : Studio)
    (emitted : List Action) : Prop where
  phase :
    studio.isRecording = true ↔
      studio.recorder.phase = .recording
  actions :
    ∀ session,
      studio.session? = some session →
        session.actions = Session.raise none emitted

/-
  Whether a run of the recorder leads somewhere where all that
  it records is heard and the store still agrees.
-/
structure Delivers
    (r : Recorder)
    (before : List Action)
    (run : List Command)
    (step : Studio × List Action) : Prop where
  recorder : step.1.recorder = r.after run
  heard : step.2 = r.history run
  agrees : step.1.Agrees (before ++ r.history run)

/- A new studio has no session and records nothing. -/
theorem agrees_new (settings : Capture.Settings) (now : Nat) :
    (new settings now).Agrees [] where
  phase := iff_of_false Bool.false_ne_true nofun
  actions := by
    intro session hSession
    cases hSession

theorem Agrees.logs
    (hAgrees : studio.Agrees before)
    (hRecording : studio.isRecording = true) :
    studio.outlet.Logs before := by
  rcases Option.isSome_iff_exists.mp hRecording with
    ⟨session, hSession⟩
  have hCurrent := (Store.active?_eq_some_iff.mp hSession).1
  exact ⟨session, hSession, hAgrees.actions session hCurrent⟩

theorem agrees_of_logs
    (hPhase : studio.recorder.phase = .recording)
    (hLogs : studio.outlet.Logs before) :
    studio.Agrees before := by
  rcases hLogs with ⟨session, hSession, hActions⟩
  have hCurrent := (Store.active?_eq_some_iff.mp hSession).1
  constructor
  · have hRecording : studio.isRecording = true :=
      Option.isSome_iff_exists.mpr ⟨session, hSession⟩
    exact iff_of_true hRecording hPhase
  · intro other hOther
    have hSame := hCurrent.symm.trans hOther
    cases hSame
    exact hActions

/- Time does not matter for that. -/
theorem Agrees.later
    (hAgrees : studio.Agrees before)
    (duration : Nat) :
    (studio.later duration).Agrees before :=
  ⟨hAgrees.phase, hAgrees.actions⟩

/- A run of the recorder stays in the session. -/
theorem current?_of_carries
    (hCarries : studio.Carries run step) :
    step.1.current? = studio.current? := by
  have hSame :=
    studio.outlet.current?_deliverAll
      (studio.recorder.history run)
  rw [hCarries.delivery] at hSame
  exact hSame

/- Nor does it open or stop one. -/
theorem isRecording_of_carries
    (hCarries : studio.Carries run step) :
    step.1.isRecording = studio.isRecording := by
  have hSame :=
    studio.outlet.isActive_deliverAll
      (studio.recorder.history run)
  rw [hCarries.delivery] at hSame
  exact hSame

/- Doing nothing delivers nothing. -/
theorem Agrees.delivers_nil
    (hAgrees : studio.Agrees before) :
    Delivers studio.recorder before [] (studio, []) where
  recorder := rfl
  heard := rfl
  agrees := by
    rw [Recorder.history, List.append_nil]
    exact hAgrees

/- An active session takes all that a run records. -/
theorem delivers_of_logs
    (hLogs : studio.outlet.Logs before)
    (hCarries : studio.Carries run step)
    (hPhase :
      (studio.recorder.after run).phase = .recording) :
    Delivers studio.recorder before run step := by
  have hDeliver :=
    hLogs.deliverAll (studio.recorder.history run)
  rw [hCarries.delivery] at hDeliver
  refine ⟨hCarries.recorder, hDeliver.2, ?_⟩
  apply agrees_of_logs _ hDeliver.1
  rw [hCarries.recorder]
  exact hPhase

/-
  Where store and recorder agree, a run that neither begins
  nor ends a recording delivers all it records. Either the
  session takes it, or there is nothing to take.
-/
theorem Agrees.delivers
    (hAgrees : studio.Agrees before)
    (hCarries : studio.Carries run step)
    (hOngoing : ∀ command ∈ run, command.IsOngoing) :
    Delivers studio.recorder before run step := by
  have hAfter :
      (studio.recorder.after run).phase =
        studio.recorder.phase :=
    Recorder.phase_after hOngoing
  cases hPhase : studio.recorder.phase with
  | recording =>
      have hLogs := hAgrees.logs (hAgrees.phase.mpr hPhase)
      exact delivers_of_logs hLogs hCarries
        (hAfter.trans hPhase)
  | idle =>
      have hNone :=
        Recorder.history_of_idle hPhase hOngoing
      have hDelivery := hCarries.delivery
      rw [hNone] at hDelivery
      have hOutlet : studio.outlet = step.1.outlet :=
        congrArg Prod.fst hDelivery
      have hHeard : [] = step.2 :=
        congrArg Prod.snd hDelivery
      refine ⟨hCarries.recorder, ?_, ?_, ?_⟩
      · rw [hNone, ← hHeard]
      · rw [hCarries.recorder, hAfter, ← hAgrees.phase]
        unfold isRecording
        rw [hOutlet]
      · rw [hNone, List.append_nil]
        unfold session?
        rw [← hOutlet]
        exact hAgrees.actions

------------------------------------------------------------
-- Starting and Stopping
------------------------------------------------------------

/- A start is refused, or a new session begins. -/
theorem start_cases
    (studio : Studio)
    (fileName : String)
    (language : Language)
    (startUrl : Option String) :
    (∃ fault,
      studio.start fileName language startUrl =
        studio.refuse fault) ∨
    ∃ name store session,
      studio.outlet.openSession name language
            (startUrl.filter fun url =>
              !Text.isBlankText url) =
          .ok (store, session) ∧
        studio.start fileName language startUrl =
          finish
            (Station.start
              { studio with outlet := store }
              (startUrl.filter fun url =>
                !Text.isBlankText url))
            session := by
  unfold start openSession
  cases Text.nonBlank fileName with
  | none => exact Or.inl ⟨.nameRequired, rfl⟩
  | some name =>
      dsimp only
      cases hOpen :
          studio.outlet.openSession name language
            (startUrl.filter fun url =>
              !Text.isBlankText url) with
      | error fault => exact Or.inl ⟨fault, rfl⟩
      | ok opened =>
          exact Or.inr
            ⟨name, opened.1, opened.2, hOpen, rfl⟩

theorem opens_of_refuse
    {fileName : String}
    {language : Language}
    {startUrl : Option String}
    {fault : Fault}
    (hStart :
      studio.start fileName language startUrl =
        studio.refuse fault) :
    studio.opens (.start fileName language startUrl) =
      false := by
  dsimp only [opens]
  rw [hStart]
  rfl

theorem opens_of_finish
    {fileName : String}
    {language : Language}
    {startUrl : Option String}
    {session : Session}
    (hStart :
      studio.start fileName language startUrl =
        finish step session) :
    studio.opens (.start fileName language startUrl) =
      true := by
  dsimp only [opens]
  rw [hStart]
  rfl

theorem openSession_of_ok
    {store : Store}
    {session : Session}
    {fileName : String}
    {language : Language}
    {startUrl : Option String}
    (hOpen :
      studio.outlet.openSession fileName language startUrl =
        .ok (store, session)) :
    studio.openSession fileName language startUrl =
      .ok ({ studio with outlet := store }, session) := by
  unfold openSession
  rw [hOpen]

theorem openSession_of_error
    {fault : Fault}
    {fileName : String}
    {language : Language}
    {startUrl : Option String}
    (hOpen :
      studio.outlet.openSession fileName language startUrl =
        .error fault) :
    studio.openSession fileName language startUrl =
      .error fault := by
  unfold openSession
  rw [hOpen]

theorem closeSession_of_active
    {session : Session}
    (hActive : studio.outlet.active? = some session) :
    studio.closeSession =
      .ok ({ studio with
          outlet :=
            { studio.outlet with
              session := some session.stop } },
        session.stop) := by
  unfold closeSession
  rw [Store.closeSession_of_active hActive]

theorem isRecording_of_not_active
    (hActive : studio.outlet.active? = none) :
    studio.isRecording = false := by
  unfold isRecording Store.isActive
  rw [hActive]
  rfl

theorem closeSession_of_not_active
    (hActive : studio.outlet.active? = none) :
    studio.closeSession = .error .noActiveSession := by
  unfold closeSession Store.closeSession
  rw [hActive]

/- The studio once its session is closed, if one is active. -/
def closed (studio : Studio) : Studio :=
  match studio.closeSession with
  | .error _ => studio
  | .ok (next, _) => next

/- A studio in which recorder and session have stopped. -/
def stopped (studio : Studio) (session : Session) : Studio :=
  { studio with
    recorder := studio.recorder.stop
    outlet :=
      { studio.outlet with session := some session.stop } }

/- An active session is stopped after the recorder is. -/
theorem stop_of_active
    {session : Session}
    (hSession : studio.outlet.active? = some session) :
    studio.stop =
      finish (studio.stopped session, []) session.stop := by
  have hRecording : studio.isRecording = true :=
    Option.isSome_iff_exists.mpr ⟨session, hSession⟩
  unfold stop closeSession Store.closeSession Station.stop
  rw [if_pos hRecording, hSession]
  rfl

/-
  A start that is not refused begins a log. The recorder need
  not agree with the store before it does.
-/
theorem delivers_andSettle_start
    {store : Store}
    (studio : Studio)
    (hLogs : store.Logs [])
    (address : Option String) :
    Delivers studio.recorder []
      [.start address studio.now, .poll studio.now]
      (Station.andSettle
        (Station.start { studio with outlet := store }
          address)) := by
  have hCarries :=
    (Station.carries_start { studio with outlet := store }
      address).andSettle
  have hPhase :
      (studio.recorder.after
        [.start address studio.now,
          .poll studio.now]).phase = .recording :=
    (Recorder.phase_poll _ _).trans
      (studio.recorder.phase_execute_start address studio.now)
  have hDelivers := delivers_of_logs hLogs hCarries hPhase
  exact hDelivers

/- After a stop both sides are idle, and the log stays. -/
theorem Agrees.delivers_stop
    (hAgrees : studio.Agrees before)
    (hRecording : studio.isRecording = true) :
    Delivers studio.recorder before
      [.stop, .poll studio.now] studio.stop.step := by
  rcases hAgrees.logs hRecording with
    ⟨session, hSession, hActions⟩
  rw [stop_of_active hSession]
  have hStopped : (studio.stopped session).Agrees before := by
    refine ⟨?_, ?_⟩
    · exact iff_of_false Bool.false_ne_true nofun
    · intro other hOther
      cases hOther
      exact hActions
  have hDelivers :=
    hStopped.delivers (Station.carries_settleDue _)
      (by simp [Command.IsOngoing])
  exact ⟨hDelivers.recorder, hDelivers.heard,
    hDelivers.agrees⟩

------------------------------------------------------------
-- Calls
------------------------------------------------------------

/- What of the actions so far belongs to the session still. -/
def kept
    (studio : Studio)
    (before : List Action)
    (call : Call) : List Action :=
  if studio.opens call then [] else before

/-
  What the recorder has recorded since the session began,
  where it had recorded `before` of that before the calls.
-/
def emittedSince
    (studio : Studio)
    (before : List Action) : List Call → List Action
  | [] => before
  | call :: rest =>
      (studio.perform call).1.emittedSince
        (studio.kept before call ++
          studio.recorder.history (studio.commands call))
        rest

/- A start begins a log, or it is refused. -/
theorem Agrees.delivers_start
    (hAgrees : studio.Agrees before)
    (fileName : String)
    (language : Language)
    (startUrl : Option String) :
    Delivers studio.recorder
      (studio.kept before (.start fileName language startUrl))
      (studio.commands (.start fileName language startUrl))
      (studio.start fileName language startUrl).step := by
  rcases studio.start_cases fileName language startUrl with
    ⟨fault, hStart⟩ | ⟨name, store, session, hOpen, hStart⟩
  · dsimp only [kept, commands]
    rw [opens_of_refuse hStart, hStart]
    exact hAgrees.delivers_nil
  · have hBegins := Store.begins_of_openSession hOpen
    dsimp only [kept, commands]
    rw [opens_of_finish hStart, hStart]
    exact studio.delivers_andSettle_start hBegins.logs _

/- Any call delivers what it has the recorder record. -/
theorem Agrees.delivers_perform
    (hAgrees : studio.Agrees before)
    (call : Call) :
    Delivers studio.recorder (studio.kept before call)
      (studio.commands call) (studio.perform call) := by
  cases call with
  | start fileName language startUrl =>
      exact hAgrees.delivers_start fileName language startUrl
  | stop =>
      dsimp only [commands, perform]
      cases hRecording : studio.isRecording with
      | true => exact hAgrees.delivers_stop hRecording
      | false =>
          unfold stop
          rw [hRecording]
          exact hAgrees.delivers_nil
  | submit events =>
      have hCarries := studio.carries_submit events
      refine hAgrees.delivers hCarries.andSettle ?_
      intro command hCommand
      rcases List.mem_append.mp hCommand with
        hHandle | hPoll
      · rcases List.mem_map.mp hHandle with ⟨event, _, rfl⟩
        trivial
      · cases List.mem_singleton.mp hPoll
        trivial
  | append action =>
      dsimp only [commands, perform]
      unfold append
      cases hRecording : studio.isRecording with
      | true =>
          have hCarries := studio.carries_append action
          refine hAgrees.delivers hCarries.andSettle ?_
          simp [Command.IsOngoing]
      | false => exact hAgrees.delivers_nil
  | advance duration =>
      have hDelivers :=
        (hAgrees.later duration).delivers
          (Station.carries_settleDue _)
          (by simp [Command.IsOngoing])
      exact hDelivers
  | lapse duration =>
      exact (hAgrees.later duration).delivers_nil

/- So does any run of calls. -/
theorem Agrees.after
    (hAgrees : studio.Agrees before)
    (calls : List Call) :
    (studio.after calls).Agrees
      (studio.emittedSince before calls) := by
  induction calls generalizing studio before with
  | nil => exact hAgrees
  | cons call calls ih =>
      exact ih (hAgrees.delivers_perform call).agrees

/-
  A session stays the current one until a start opens another.
-/
theorem current?_perform
    (studio : Studio)
    (call : Call) :
    (studio.perform call).1.current? =
      if studio.opens call then
        some (studio.outlet.opened + 1)
      else studio.current? := by
  cases call with
  | start fileName language startUrl =>
      dsimp only [perform]
      rcases studio.start_cases fileName language startUrl with
        ⟨fault, hStart⟩ |
          ⟨name, store, session, hOpen, hStart⟩
      · rw [opens_of_refuse hStart, hStart]
        rfl
      · have hBegins := Store.begins_of_openSession hOpen
        rw [opens_of_finish hStart, hStart]
        exact (current?_of_carries
          (Station.carries_start _ _).andSettle).trans
            hBegins.current
  | stop =>
      dsimp only [perform]
      cases hRecording : studio.isRecording with
      | true =>
          rcases Option.isSome_iff_exists.mp hRecording with
            ⟨session, hActive⟩
          have hCurrent :=
            (Store.active?_eq_some_iff.mp hActive).1
          have hSame :
              (studio.stopped session).current? =
                studio.current? := by
            unfold current? Store.current?
            rw [hCurrent]
            rfl
          rw [stop_of_active hActive]
          exact (current?_of_carries
            (Station.carries_settleDue _)).trans hSame
      | false =>
          unfold stop
          rw [hRecording]
          rfl
  | submit events =>
      exact current?_of_carries
        (studio.carries_submit events).andSettle
  | append action =>
      dsimp only [perform]
      unfold append
      cases studio.isRecording with
      | true =>
          exact current?_of_carries
            (studio.carries_append action).andSettle
      | false => rfl
  | advance duration =>
      have hSettle :=
        Station.carries_settleDue (studio.later duration)
      exact (current?_of_carries hSettle).trans rfl
  | lapse duration => rfl

/-
  Whatever was called: a session is active exactly while the
  recorder records. Any further call is a run of the recorder,
  all that the run records is delivered, and only a start that
  is not refused puts another session in the place of the
  current one. The log of that is what the recorder has
  recorded since the session began, in order, with times
  raised where they did not come after the one before.
-/
theorem actions_eq_raise_emittedSince
    (settings : Capture.Settings)
    (now : Nat)
    (calls : List Call) :
    (((new settings now).after calls).isRecording = true ↔
      ((new settings now).after calls).recorder.phase =
        .recording) ∧
    (∀ call,
      (((new settings now).after calls).perform
          call).1.recorder =
        ((new settings now).after calls).recorder.after
          (((new settings now).after calls).commands call) ∧
      (((new settings now).after calls).perform call).2 =
        ((new settings now).after calls).recorder.history
          (((new settings now).after calls).commands call) ∧
      (((new settings now).after calls).perform
          call).1.current? =
        if ((new settings now).after calls).opens call then
          some
            (((new settings now).after
              calls).outlet.opened + 1)
        else ((new settings now).after calls).current?) ∧
    ∀ session,
      ((new settings now).after calls).session? =
          some session →
        session.actions =
          Session.raise none
            ((new settings now).emittedSince [] calls) := by
  have hAgrees := (agrees_new settings now).after calls
  refine ⟨hAgrees.phase, ?_, hAgrees.actions⟩
  intro call
  have hDelivers := hAgrees.delivers_perform call
  exact ⟨hDelivers.recorder, hDelivers.heard,
    current?_perform _ call⟩

/-
  Calls of which some are refused: a start during a recording,
  a stop and an action after it. The action that was made
  elsewhere comes with a time before the start.
-/
def visit : List Call :=
  [.start "login" .python (some "/a"),
    .append (.navigate "/b" none 0),
    .start "other" .java none,
    .advance 5, .stop, .stop,
    .append (.navigate "/c" none 20)]

theorem actions_eq_raise_emittedSince_visit :
    (new {} 5).emittedSince [] visit =
        [.navigate "/a" none 5, .navigate "/b" none 0] ∧
      ((new {} 5).after visit).session?.map (·.actions) =
        some [.navigate "/a" none 5,
          .navigate "/b" none 6] := by
  have hEmitted :
      (new {} 5).emittedSince [] visit =
        [.navigate "/a" none 5, .navigate "/b" none 0] := by
    decide
  refine ⟨hEmitted, ?_⟩
  have hActions :=
    (actions_eq_raise_emittedSince {} 5 visit).2.2
  rw [hEmitted] at hActions
  cases hSession :
      ((new {} 5).after visit).session? with
  | none =>
      have hSome :
          ((new {} 5).after visit).session?.isSome = true := by
        decide
      rw [hSession] at hSome
      cases hSome
  | some session =>
      rw [Option.map_some, hActions session hSession]
      rfl

end Studio

end Clickstream
