import Clickstream.Proofs.Capture.Candidates

/-
  Replay: an event log alone decides what is recorded. When a
  recorder is polled in between changes neither the actions
  nor the state, as long as no poll runs ahead of the events.

  Key definitions:
    * `IsPaced`

  Key theorems:
    * `Recorder.settleAll_timers`, `Recorder.settleAll_append`
    * `Recorder.poll_poll`, `Recorder.poll_handle`
    * `Recorder.after_and_history_of_isPaced`
-/

namespace Clickstream

namespace Capture

/-
  Whether commands handle these events in order and only poll
  in between, each time no later than the next event happens.
-/
inductive IsPaced : List Event → List Command → Prop where
  | done : IsPaced [] []
  | handle
      (event : Event)
      {events : List Event}
      {commands : List Command}
      (hRest : IsPaced events commands) :
      IsPaced (event :: events) (.handle event :: commands)
  | poll
      {now : Nat}
      {event : Event}
      {events : List Event}
      {commands : List Command}
      (hNow : now ≤ event.timestamp)
      (hRest : IsPaced (event :: events) commands) :
      IsPaced (event :: events) (.poll now :: commands)

namespace Recorder

variable {r : Recorder}

------------------------------------------------------------
-- Settling
------------------------------------------------------------

/- No check looks at what still waits. -/
theorem record_timers
    (r : Recorder)
    (timers : Timers TimerKey Action)
    (action : Action) :
    { r with timers := timers }.record action =
      ({ (r.record action).1 with timers := timers },
        (r.record action).2) := by
  by_cases hAccepts : r.Accepts action
  · have hOther :
        Accepts { r with timers := timers } action :=
      hAccepts
    rw [record_of_accepts hAccepts, record_of_accepts hOther]
    unfold follow
    split <;> rfl
  · have hOther :
        ¬ Accepts { r with timers := timers } action :=
      hAccepts
    rw [record_of_not_accepts hAccepts,
      record_of_not_accepts hOther]

theorem settle_timers
    (r : Recorder)
    (timers : Timers TimerKey Action)
    (key : TimerKey)
    (action : Action) :
    { r with timers := timers }.settle key action =
      ({ (r.settle key action).1 with timers := timers },
        (r.settle key action).2) := by
  by_cases hSettles : r.Settles key action
  · have hOther :
        Settles { r with timers := timers } key action :=
      ⟨hSettles.phase, by cases key <;> exact hSettles.isNews,
        hSettles.accepts⟩
    rw [settle_of_settles hSettles, settle_of_settles hOther,
      record_timers]
    cases key <;> rfl
  · have hOther :
        ¬ Settles { r with timers := timers } key action :=
      fun h => hSettles
        ⟨h.phase, by cases key <;> exact h.isNews, h.accepts⟩
    rw [settle_of_not_settles hSettles,
      settle_of_not_settles hOther]

theorem settleAll_timers
    (r : Recorder)
    (timers : Timers TimerKey Action)
    (entries : List (TimerKey × Action)) :
    { r with timers := timers }.settleAll entries =
      ({ (r.settleAll entries).1 with timers := timers },
        (r.settleAll entries).2) := by
  induction entries generalizing r with
  | nil => rfl
  | cons entry entries ih =>
      rw [settleAll_cons, settleAll_cons, settle_timers, ih]

/- What is settled in two goes is settled at once. -/
theorem settleAll_append
    (r : Recorder)
    (first second : List (TimerKey × Action)) :
    r.settleAll (first ++ second) =
      (((r.settleAll first).1.settleAll second).1,
        (r.settleAll first).2 ++
          ((r.settleAll first).1.settleAll second).2) := by
  rw [← judgeAll_map_ofEntry, List.map_append,
    judgeAll_append, judgeAll_map_ofEntry,
    judgeAll_map_ofEntry]

------------------------------------------------------------
-- Polling
------------------------------------------------------------

/- A poll that runs ahead of another one adds nothing. -/
theorem poll_poll
    (r : Recorder)
    {first second : Nat}
    (hOrder : first ≤ second) :
    r.poll second =
      (((r.poll first).1.poll second).1,
        (r.poll first).2 ++
          ((r.poll first).1.poll second).2) := by
  have hTimers :
      (r.poll first).1.timers = r.timers.later first :=
    (keeps_settleAll _ _).timers
  have hRest :
      (r.poll first).1.poll second =
        { (r.poll first).1 with
          timers := r.timers.later second }.settleAll
            ((r.timers.later first).takeDue second).2 := by
    rw [poll_eq, hTimers, Timers.later_later _ hOrder]
  have hFirst :
      { r with timers := r.timers.later second }.settleAll
          (r.timers.takeDue first).2 =
        ({ (r.poll first).1 with
            timers := r.timers.later second },
          (r.poll first).2) :=
    settleAll_timers { r with timers := r.timers.later first }
      _ _
  rw [poll_eq r second,
    ← Timers.takeDue_append_takeDue _ hOrder,
    settleAll_append, hFirst, hRest]

/- An event is handled alike behind an earlier poll. -/
theorem poll_handle
    (r : Recorder)
    {now : Nat}
    {event : Event}
    (hNow : now ≤ event.timestamp) :
    r.execute (.handle event) =
      (((r.poll now).1.execute (.handle event)).1,
        some (r.recorded (.poll now) ++
          (r.poll now).1.recorded (.handle event))) := by
  have hPoll := r.poll_poll hNow
  have hPhase := r.phase_poll now
  unfold recorded
  cases hIdle : r.phase with
  | idle =>
      rw [hIdle] at hPhase
      rw [execute_handle_of_idle hIdle,
        execute_handle_of_idle hPhase, hPoll]
      rfl
  | recording =>
      rw [hIdle] at hPhase
      rw [execute_handle_of_recording hIdle,
        execute_handle_of_recording hPhase, hPoll]
      dsimp only [Option.getD_some]
      rw [List.append_assoc]
      rfl

------------------------------------------------------------
-- Runs
------------------------------------------------------------

/-
  A paced run ends in the state and records the actions that
  its events alone lead to, whatever state it begins in.
-/
theorem after_and_history_of_isPaced
    {events : List Event}
    {commands : List Command}
    (r : Recorder)
    (hPaced : IsPaced events commands) :
    r.after commands = r.after (events.map .handle) ∧
      r.history commands =
        r.history (events.map .handle) := by
  induction hPaced generalizing r with
  | done => exact ⟨rfl, rfl⟩
  | handle event hRest ih =>
      have hNext := ih (r.execute (.handle event)).1
      refine ⟨hNext.1, ?_⟩
      rw [List.map_cons, history, history, hNext.2]
  | @poll now event events commands hNow hRest ih =>
      have hNext := ih (r.poll now).1
      have hHandle := r.poll_handle hNow
      rw [List.map_cons] at hNext ⊢
      constructor
      · calc (r.poll now).1.after commands
            = (r.poll now).1.after
                (.handle event :: events.map .handle) :=
              hNext.1
          _ = r.after
                (.handle event :: events.map .handle) := by
              rw [after, after, hHandle]
      · calc r.recorded (.poll now) ++
              (r.poll now).1.history commands
            = r.recorded (.poll now) ++
                (r.poll now).1.history
                  (.handle event :: events.map .handle) := by
              rw [hNext.2]
          _ = r.history
                (.handle event :: events.map .handle) := by
              rw [history, history, ← List.append_assoc]
              unfold recorded
              rw [hHandle]
              rfl

/- A pointer has come to an element and waits there. -/
def hovering : Recorder where
  settings := {}
  phase := .recording
  timers := ⟨[⟨.hover, 6, 0, { kind := .hover }⟩], 1⟩

/-
  The first poll lets out what the first event would let out
  as well. The second event bears an earlier time.
-/
theorem after_and_history_of_hovering :
    hovering.recorded (.poll 7) = [{ kind := .hover }] ∧
      hovering.after
          [.poll 7, .poll 3, .handle ⟨.mutation "/next", 10⟩,
            .poll 4, .handle ⟨.unload "/last", 4⟩] =
        hovering.after
          [.handle ⟨.mutation "/next", 10⟩,
            .handle ⟨.unload "/last", 4⟩] ∧
      hovering.history
          [.poll 7, .poll 3, .handle ⟨.mutation "/next", 10⟩,
            .poll 4, .handle ⟨.unload "/last", 4⟩] =
        hovering.history
          [.handle ⟨.mutation "/next", 10⟩,
            .handle ⟨.unload "/last", 4⟩] := by
  have hPaced :
      IsPaced
        [⟨.mutation "/next", 10⟩, ⟨.unload "/last", 4⟩]
        [.poll 7, .poll 3, .handle ⟨.mutation "/next", 10⟩,
          .poll 4, .handle ⟨.unload "/last", 4⟩] :=
    .poll (by decide) (.poll (by decide)
      (.handle _ (.poll (by decide) (.handle _ .done))))
  exact
    ⟨by decide, hovering.after_and_history_of_isPaced hPaced⟩

end Recorder

end Capture

end Clickstream
