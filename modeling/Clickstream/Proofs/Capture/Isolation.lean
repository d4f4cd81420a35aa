import Clickstream.Proofs.Capture.Replay

/-
  Isolation: one recording does not show in another. A start
  leaves nothing of what was before but the ticket to draw
  next, and no answer depends on where tickets begin. Between
  recordings nothing is recorded, whatever still waits.

  Key definitions:
    * `Recorder.renumber`
    * `IsBetween`: no recording is under way

  Key theorems:
    * `Recorder.execute_renumber`, `Recorder.answers_renumber`
    * `Recorder.answers_start_eq`
    * `Recorder.history_of_idle`
    * `Recorder.phase_after_new_iff`
    * `Recorder.answers_start_after`
-/

namespace Clickstream

namespace Capture

namespace Recorder

variable {r : Recorder}

------------------------------------------------------------
-- Other Tickets
------------------------------------------------------------

/- The same recorder with tickets drawn so much later. -/
def renumber (shift : Nat) (r : Recorder) : Recorder :=
  { r with timers := r.timers.renumber shift }

variable (shift : Nat)

theorem timers_renumber (r : Recorder) :
    (r.renumber shift).timers = r.timers.renumber shift :=
  rfl

theorem record_renumber
    (r : Recorder)
    (action : Action) :
    (r.renumber shift).record action =
      ((r.record action).1.renumber shift,
        (r.record action).2) := by
  unfold renumber
  rw [(r.keeps_record action).timers]
  exact r.record_timers _ action

/-
  Settling does not touch the timers, so the tickets may be
  shifted before it or after it.
-/
theorem settleAll_renumber
    (r : Recorder)
    (timers : Timers TimerKey Action)
    (entries : List (TimerKey × Action)) :
    { r with timers := timers.renumber shift }.settleAll
        entries =
      (({ r with timers := timers }.settleAll
          entries).1.renumber shift,
        ({ r with timers := timers }.settleAll entries).2) := by
  rw [r.settleAll_timers (timers.renumber shift),
    r.settleAll_timers timers]
  rfl

theorem poll_renumber (r : Recorder) (now : Nat) :
    (r.renumber shift).poll now =
      ((r.poll now).1.renumber shift, (r.poll now).2) := by
  rw [poll_eq, timers_renumber, Timers.later_renumber,
    Timers.takeDue_renumber]
  exact settleAll_renumber shift r (r.timers.later now) _

theorem flush_renumber (r : Recorder) :
    (r.renumber shift).flush =
      (r.flush.1.renumber shift, r.flush.2) := by
  rw [flush_eq, timers_renumber, Timers.clear_renumber,
    Timers.drain_renumber]
  exact settleAll_renumber shift r r.timers.clear _

theorem recordInOrder_renumber
    (r : Recorder)
    (action : Action) :
    (r.renumber shift).recordInOrder action =
      ((r.recordInOrder action).1.renumber shift,
        (r.recordInOrder action).2) := by
  rw [recordInOrder_eq, flush_renumber, record_renumber]
  rfl

theorem observe_renumber (r : Recorder) (event : Event) :
    (r.renumber shift).observe event =
      (r.observe event).renumber shift := by
  unfold observe
  split <;> rfl

theorem react_renumber (r : Recorder) (event : Event) :
    (r.renumber shift).react event =
      ((r.react event).1.renumber shift,
        (r.react event).2) := by
  unfold react
  rw [observe_renumber]
  have hVerdict :
      (r.renumber shift).settings.interpret
          (r.renumber shift).location event =
        r.settings.interpret r.location event :=
    rfl
  rw [hVerdict]
  cases r.settings.interpret r.location event with
  | ignore => rfl
  | settle key deadline action =>
      have hSchedule :=
        r.timers.schedule_renumber shift key deadline action
      dsimp only [renumber]
      rw [hSchedule]
  | record action =>
      exact recordInOrder_renumber shift _ action

/- A command does the same whatever the tickets are. -/
theorem execute_renumber (r : Recorder) (command : Command) :
    (r.renumber shift).execute command =
      ((r.execute command).1.renumber shift,
        (r.execute command).2) := by
  cases command with
  | start address now =>
      cases address with
      | none => rfl
      | some url =>
          have hRecord :=
            record_renumber shift (r.begun (some url))
              (Action.navigate url none now)
          have hBegun :
              (r.renumber shift).begun (some url) =
                (r.begun (some url)).renumber shift :=
            rfl
          rw [execute_start_some, execute_start_some, hBegun,
            hRecord]
  | stop => rfl
  | poll now =>
      dsimp only [execute]
      rw [poll_renumber]
  | flush =>
      dsimp only [execute]
      rw [flush_renumber]
  | append action =>
      cases hPhase : r.phase with
      | idle =>
          have hOther : (r.renumber shift).phase = .idle :=
            hPhase
          rw [execute_append_of_idle hPhase,
            execute_append_of_idle hOther]
      | recording =>
          have hOther :
              (r.renumber shift).phase = .recording :=
            hPhase
          rw [execute_append_of_recording hPhase,
            execute_append_of_recording hOther,
            recordInOrder_renumber]
  | handle event =>
      cases hPhase : r.phase with
      | idle =>
          have hOther : (r.renumber shift).phase = .idle :=
            hPhase
          rw [execute_handle_of_idle hPhase,
            execute_handle_of_idle hOther, poll_renumber]
      | recording =>
          have hOther :
              (r.renumber shift).phase = .recording :=
            hPhase
          rw [execute_handle_of_recording hPhase,
            execute_handle_of_recording hOther, poll_renumber,
            react_renumber]

theorem answer_renumber (r : Recorder) (command : Command) :
    (r.renumber shift).answer command = r.answer command := by
  unfold answer
  rw [execute_renumber]
  dsimp only [renumber]
  rw [Timers.size_renumber, Timers.nextDeadline?_renumber]

/- So does a run. -/
theorem answers_renumber
    (r : Recorder)
    (commands : List Command) :
    (r.renumber shift).answers commands =
      r.answers commands := by
  induction commands generalizing r with
  | nil => rfl
  | cons command commands ih =>
      unfold answers
      rw [answer_renumber, execute_renumber, ih]

------------------------------------------------------------
-- Starting Again
------------------------------------------------------------

/-
  A start is a start of a new recorder, but for the tickets
  that were drawn before.
-/
theorem answers_start_eq
    (r : Recorder)
    (address : Option String)
    (now : Nat)
    (commands : List Command) :
    r.answers (.start address now :: commands) =
      (new r.settings).answers
        (.start address now :: commands) := by
  have hTickets :
      r.timers.clear =
        (new r.settings).timers.renumber r.timers.nextTicket := by
    show Timers.mk [] r.timers.nextTicket =
      Timers.mk [] (0 + r.timers.nextTicket)
    rw [Nat.zero_add]
  have hExecute :
      r.execute (.start address now) =
        ((new r.settings).renumber
          r.timers.nextTicket).execute
            (.start address now) := by
    have hBegun :
        r.begun address =
          ((new r.settings).renumber
            r.timers.nextTicket).begun address := by
      unfold begun
      rw [hTickets]
      rfl
    cases address with
    | none => exact congrArg (fun s => (s, some [])) hBegun
    | some url =>
        rw [execute_start_some, execute_start_some, hBegun]
  rw [← answers_renumber r.timers.nextTicket (new r.settings)]
  unfold answers answer
  rw [hExecute]

------------------------------------------------------------
-- Between Recordings
------------------------------------------------------------

/- Settling while nothing is recorded forgets what waited. -/
theorem settleAll_of_idle
    (hPhase : r.phase = .idle)
    (entries : List (TimerKey × Action)) :
    r.settleAll entries = (r, []) := by
  have hSettle :
      ∀ key action, r.settle key action = (r, none) := by
    intro key action
    apply settle_of_not_settles
    intro hSettles
    have hRecording := hSettles.phase
    rw [hPhase] at hRecording
    cases hRecording
  induction entries with
  | nil => rfl
  | cons entry entries ih =>
      rw [settleAll_cons, hSettle, ih]
      rfl

theorem poll_of_idle
    (hPhase : r.phase = .idle)
    (now : Nat) :
    (r.poll now).2 = [] := by
  have hLater :
      { r with timers := r.timers.later now }.phase = .idle :=
    hPhase
  rw [poll_eq, settleAll_of_idle hLater]

theorem flush_of_idle (hPhase : r.phase = .idle) :
    r.flush.2 = [] := by
  have hClear :
      { r with timers := r.timers.clear }.phase = .idle :=
    hPhase
  rw [flush_eq, settleAll_of_idle hClear]

/- Such a command records nothing while nothing is recorded. -/
theorem recorded_of_idle
    {command : Command}
    (hPhase : r.phase = .idle)
    (hOngoing : command.IsOngoing) :
    r.recorded command = [] := by
  cases command with
  | start address now => exact hOngoing.elim
  | stop => rfl
  | poll now => exact poll_of_idle hPhase now
  | flush => exact flush_of_idle hPhase
  | append action =>
      unfold recorded
      rw [execute_append_of_idle hPhase]
      rfl
  | handle event =>
      unfold recorded
      rw [execute_handle_of_idle hPhase]
      exact poll_of_idle hPhase event.timestamp

theorem history_of_idle
    {commands : List Command}
    (hPhase : r.phase = .idle)
    (hOngoing : ∀ command ∈ commands, command.IsOngoing) :
    r.history commands = [] := by
  induction commands generalizing r with
  | nil => rfl
  | cons command commands ih =>
      have hFirst := hOngoing command List.mem_cons_self
      have hNext := (phase_execute hFirst).trans hPhase
      have hRest := ih hNext fun other hOther =>
        hOngoing other (List.mem_cons_of_mem _ hOther)
      rw [history, recorded_of_idle hPhase hFirst, hRest]
      rfl

end Recorder

/- Whether a command begins a recording. -/
def Command.IsStart : Command → Prop
  | start _ _ => True
  | _ => False

/-
  Whether no recording is under way after commands: there was
  no start, or none since some stop.
-/
def IsBetween (commands : List Command) : Prop :=
  (∀ command ∈ commands, ¬ command.IsStart) ∨
    ∃ before rest,
      commands = before ++ .stop :: rest ∧
        ∀ command ∈ rest, ¬ command.IsStart

namespace Recorder

variable {r : Recorder}

theorem phase_execute_start
    (r : Recorder)
    (address : Option String)
    (now : Nat) :
    (r.execute (.start address now)).1.phase = .recording := by
  cases address with
  | none => rfl
  | some url =>
      rw [execute_start_some]
      exact (keeps_record _ _).phase

/- Without a start nothing begins to be recorded. -/
theorem phase_after_of_not_isStart
    {commands : List Command}
    (hPhase : r.phase = .idle)
    (hNone : ∀ command ∈ commands, ¬ command.IsStart) :
    (r.after commands).phase = .idle := by
  induction commands generalizing r with
  | nil => exact hPhase
  | cons command commands ih =>
      have hFirst := hNone command List.mem_cons_self
      have hNext : (r.execute command).1.phase = .idle := by
        cases command with
        | start address now => exact absurd trivial hFirst
        | stop => rfl
        | _ =>
            refine (phase_execute ?_).trans hPhase
            trivial
      exact ih hNext fun other hOther =>
        hNone other (List.mem_cons_of_mem _ hOther)

/-
  Where nothing is recorded in the end, it was so all along,
  or some stop made it so.
-/
theorem isBetween_of_phase_after
    {commands : List Command}
    (hPhase : (r.after commands).phase = .idle) :
    r.phase = .idle ∧
        (∀ command ∈ commands, ¬ command.IsStart) ∨
      ∃ before rest,
        commands = before ++ .stop :: rest ∧
          ∀ command ∈ rest, ¬ command.IsStart := by
  induction commands generalizing r with
  | nil => exact Or.inl ⟨hPhase, by simp⟩
  | cons command commands ih =>
      rcases ih hPhase with
        ⟨hIdle, hNone⟩ | ⟨before, rest, rfl, hNone⟩
      · cases command with
        | start address now =>
            rw [phase_execute_start] at hIdle
            cases hIdle
        | stop =>
            exact Or.inr ⟨[], commands, rfl, hNone⟩
        | _ =>
            have hSame : r.phase = .idle := by
              refine (phase_execute ?_).symm.trans hIdle
              trivial
            refine Or.inl ⟨hSame, ?_⟩
            intro other hOther
            rcases List.mem_cons.mp hOther with rfl | hLater
            · exact not_false
            · exact hNone other hLater
      · exact Or.inr ⟨command :: before, rest, rfl, hNone⟩

theorem phase_after_new_iff
    (settings : Settings)
    (commands : List Command) :
    ((new settings).after commands).phase = .idle ↔
      IsBetween commands := by
  constructor
  · intro hPhase
    rcases isBetween_of_phase_after hPhase with
      ⟨_, hNone⟩ | hStopped
    · exact Or.inl hNone
    · exact Or.inr hStopped
  · rintro (hNone | ⟨before, rest, rfl, hNone⟩)
    · exact phase_after_of_not_isStart rfl hNone
    · rw [after_append, after]
      exact phase_after_of_not_isStart rfl hNone

/-
  Whatever a new recorder went through: after a start, any run
  shows what it would show of a new recorder. And it is idle
  just before the first start and from a stop to the next
  start, and as long as it is, nothing is recorded.
-/
theorem answers_start_after
    (settings : Settings)
    (past : List Command) :
    (∀ address now commands,
      ((new settings).after past).answers
          (.start address now :: commands) =
        (new settings).answers
          (.start address now :: commands)) ∧
    (((new settings).after past).phase = .idle ↔
      IsBetween past) ∧
    (((new settings).after past).phase = .idle →
      ∀ commands,
        (∀ command ∈ commands, command.IsOngoing) →
          ((new settings).after past).history commands =
            []) := by
  have hSettings :
      ((new settings).after past).settings = settings :=
    settings_after _ _
  refine ⟨?_, phase_after_new_iff settings past, ?_⟩
  · intro address now commands
    have hStart :=
      ((new settings).after past).answers_start_eq address now
        commands
    rw [hSettings] at hStart
    exact hStart
  · intro hPhase commands hOngoing
    exact history_of_idle hPhase hOngoing

/-
  A recording is stopped while a scroll waits. Until the next
  start the scroll may fall due, but does not come through;
  after it, nothing is left of the scroll.
-/
theorem answers_start_after_scroll :
    ((new {}).after
          [.start (some "/a") 0,
            .handle ⟨.scroll none 0 500, 10⟩, .stop]).timers.size =
        1 ∧
      ((new {}).after
          [.start (some "/a") 0,
            .handle ⟨.scroll none 0 500, 10⟩, .stop]).history
          [.poll 50, .flush] = [] ∧
      ((new {}).after
          [.start (some "/a") 0,
            .handle ⟨.scroll none 0 500, 10⟩, .stop]).answers
          [.start (some "/a") 20,
            .handle ⟨.scroll none 0 500, 30⟩, .poll 200] =
        (new {}).answers
          [.start (some "/a") 20,
            .handle ⟨.scroll none 0 500, 30⟩, .poll 200] := by
  have hIsolated :=
    answers_start_after {}
      [.start (some "/a") 0,
        .handle ⟨.scroll none 0 500, 10⟩, .stop]
  refine ⟨by decide, ?_, hIsolated.1 _ _ _⟩
  apply hIsolated.2.2 rfl
  simp [Command.IsOngoing]

end Recorder

end Capture

end Clickstream
