import Clickstream.Proofs.Capture.Origins
import Clickstream.Proofs.Capture.Postponed

/-
  Chronology: in which order of times actions are recorded. A
  flush goes by the order in which actions happened, but what
  is due fires earliest deadline first; so an action with a
  short delay can come out before one that happened earlier
  and has a longer delay.

  Key definitions:
    * `Settings.delay`
    * `Tick`: what a moment of recording does to timers
    * `Timely`: timers that go along with time
    * `Recorder.Outruns`: an action fires past an older one

  Key theorems:
    * `isPunctual_interpret`
    * `Timely.tick`, `Recorder.timely_after`
    * `Recorder.pairwise_stream`
    * `Recorder.pairwise_history_iff`
-/

namespace Clickstream

namespace Capture

------------------------------------------------------------
-- Delays
------------------------------------------------------------

/- How long an action waits under a key. -/
def Settings.delay (settings : Settings) : TimerKey → Nat
  | .typing _ => settings.typeDelay
  | .hover => settings.hoverDelay
  | .scroll => settings.scrollDelay

/- Whether what waits from a time on waits for its delay. -/
def Verdict.IsPunctual
    (settings : Settings)
    (time : Nat) : Verdict → Prop
  | .settle key deadline _ =>
      deadline = clockAfter time (settings.delay key)
  | _ => True

/- An action that has to wait does so from its event on. -/
theorem isPunctual_interpret
    (settings : Settings)
    (location : Option String)
    (event : Event) :
    (settings.interpret location event).IsPunctual settings
      event.timestamp := by
  cases hVerdict : settings.interpret location event with
  | settle key deadline action =>
      cases Settings.interpret_eq_settle_iff.mp hVerdict <;> rfl
  | _ => trivial

------------------------------------------------------------
-- Ticks
------------------------------------------------------------

/- What waits comes up under its key. -/
def Pending.candidate
    (p : Pending TimerKey Action) : Candidate :=
  ⟨some p.key, p.value⟩

/-
  What becomes of timers at a moment of recording, and which
  candidates come up: what is due fires, and then something
  may happen that has to wait, or that does not and flushes
  what is left.
-/
inductive Tick
    (settings : Settings)
    (t : Timers TimerKey Action)
    (now : Nat) :
    Timers TimerKey Action → List Candidate → Prop where
  | passed :
      Tick settings t now (t.later now)
        ((t.due now).map Pending.candidate)
  | delayed
      {key : TimerKey}
      {action : Action}
      (hTime : action.timestamp = now) :
      Tick settings t now
        ((t.later now).schedule key
          (clockAfter now (settings.delay key)) action)
        ((t.due now).map Pending.candidate)
  | taken
      {u : Timers TimerKey Action}
      {action : Action}
      (hTime : action.timestamp = now)
      (hEmpty : u.pending = []) :
      Tick settings t now u
        ((t.due now ++ (t.later now).drawn).map
            Pending.candidate ++
          [⟨none, action⟩])

namespace Recorder

variable {r : Recorder}
variable {event : Event}
variable {key : TimerKey}
variable {action : Action}

theorem timers_poll (r : Recorder) (now : Nat) :
    (r.poll now).1.timers = r.timers.later now :=
  (keeps_settleAll _ _).timers

theorem map_ofEntry_drain (t : Timers TimerKey Action) :
    t.drain.2.map Candidate.ofEntry =
      t.drawn.map Pending.candidate := by
  rw [t.drain_eq_drawn]
  exact List.map_map

theorem map_ofEntry_takeDue
    (t : Timers TimerKey Action)
    (now : Nat) :
    (t.takeDue now).2.map Candidate.ofEntry =
      (t.due now).map Pending.candidate :=
  List.map_map

/- An event that means nothing lets fire what is due. -/
theorem tick_of_ignore
    (hPhase : r.phase = .recording)
    (hVerdict :
      r.settings.interpret (r.poll event.timestamp).1.location
        event.normalise = .ignore) :
    (r.execute (.handle event)).1.timers =
        r.timers.later event.timestamp ∧
      r.candidates (.handle event) =
        (r.timers.due event.timestamp).map
          Pending.candidate := by
  rw [← settings_poll r event.timestamp] at hVerdict
  rw [candidates_handle_of_recording hPhase,
    execute_handle_of_recording hPhase, map_ofEntry_takeDue]
  unfold react reactions
  rw [hVerdict]
  exact ⟨r.timers_poll _, List.append_nil _⟩

/- Behind what is due the action of the event may wait. -/
theorem tick_of_settle
    {deadline : Nat}
    (hPhase : r.phase = .recording)
    (hVerdict :
      r.settings.interpret (r.poll event.timestamp).1.location
        event.normalise = .settle key deadline action) :
    (r.execute (.handle event)).1.timers =
        (r.timers.later event.timestamp).schedule key deadline
          action ∧
      r.candidates (.handle event) =
        (r.timers.due event.timestamp).map
          Pending.candidate := by
  rw [← settings_poll r event.timestamp] at hVerdict
  rw [candidates_handle_of_recording hPhase,
    execute_handle_of_recording hPhase, map_ofEntry_takeDue]
  unfold react reactions
  rw [hVerdict]
  dsimp only
  rw [r.timers_poll]
  exact ⟨rfl, List.append_nil _⟩

/- Or it comes up at once, behind all that waits. -/
theorem tick_of_record
    (hPhase : r.phase = .recording)
    (hVerdict :
      r.settings.interpret (r.poll event.timestamp).1.location
        event.normalise = .record action) :
    (r.execute (.handle event)).1.timers.pending = [] ∧
      r.candidates (.handle event) =
        (r.timers.due event.timestamp ++
            (r.timers.later event.timestamp).drawn).map
              Pending.candidate ++
          [⟨none, action⟩] := by
  rw [← settings_poll r event.timestamp] at hVerdict
  rw [candidates_handle_of_recording hPhase,
    execute_handle_of_recording hPhase, map_ofEntry_takeDue]
  unfold react reactions
  rw [hVerdict]
  dsimp only
  unfold inOrder
  rw [r.timers_poll, map_ofEntry_drain, List.map_append,
    List.append_assoc]
  exact ⟨pending_recordInOrder _ _, rfl⟩

/- Every event is such a moment of recording. -/
theorem tick_handle
    (hPhase : r.phase = .recording)
    (event : Event) :
    Tick r.settings r.timers event.timestamp
      (r.execute (.handle event)).1.timers
      (r.candidates (.handle event)) := by
  have hPunctual :=
    isPunctual_interpret r.settings
      (r.poll event.timestamp).1.location event.normalise
  have hTime :=
    timestamp_interpret r.settings
      (r.poll event.timestamp).1.location event.normalise
  cases hVerdict :
      r.settings.interpret (r.poll event.timestamp).1.location
        event.normalise with
  | ignore =>
      rcases tick_of_ignore hPhase hVerdict with
        ⟨hTimers, hCandidates⟩
      rw [hTimers, hCandidates]
      exact .passed
  | settle key deadline action =>
      rcases tick_of_settle hPhase hVerdict with
        ⟨hTimers, hCandidates⟩
      rw [hVerdict] at hPunctual hTime
      have hDeadline :
          deadline =
            clockAfter event.timestamp
              (r.settings.delay key) :=
        hPunctual
      rw [hTimers, hCandidates, hDeadline]
      exact .delayed hTime
  | record action =>
      rcases tick_of_record hPhase hVerdict with
        ⟨hEmpty, hCandidates⟩
      rw [hVerdict] at hTime
      rw [hCandidates]
      exact .taken hTime hEmpty

end Recorder

------------------------------------------------------------
-- Timers in Time
------------------------------------------------------------

/-
  Whether timers go along with time: what waits is of no later
  time and waits for its delay, and what happened later has
  drawn a later ticket.
-/
structure Timely
    (settings : Settings)
    (time : Nat)
    (t : Timers TimerKey Action) : Prop where
  past : ∀ p ∈ t.pending, p.value.timestamp ≤ time
  punctual :
    ∀ p ∈ t.pending,
      p.deadline =
        clockAfter p.value.timestamp (settings.delay p.key)
  drawn : ∀ p ∈ t.pending, p.ticket < t.nextTicket
  ordered :
    ∀ p ∈ t.pending, ∀ q ∈ t.pending,
      p.ticket ≤ q.ticket →
        p.value.timestamp ≤ q.value.timestamp

/-
  Whether one action fires at some time although another has
  to wait for longer.
-/
def Outpaces
    (t : Timers TimerKey Action)
    (now : Nat)
    (fast slow : Action) : Prop :=
  ∃ p ∈ t.pending, ∃ q ∈ t.pending,
    p.value = fast ∧ q.value = slow ∧
      p.deadline ≤ now ∧ p.deadline < q.deadline

/- What is due outpaces all that has to wait longer. -/
theorem outpaces_of_mem_due
    {t : Timers TimerKey Action}
    {now : Nat}
    {p q : Pending TimerKey Action}
    (hp : p ∈ t.due now)
    (hq : q ∈ (t.later now).pending) :
    Outpaces t now p.value q.value := by
  rcases Timers.mem_due_iff.mp hp with ⟨hp, hDue⟩
  have hLate := of_decide_eq_true (List.mem_filter.mp hq).2
  exact ⟨p, hp, q, Timers.mem_of_mem_later hq, rfl, rfl, hDue,
    Nat.lt_of_le_of_lt hDue hLate⟩

namespace Timely

variable {settings : Settings}
variable {time now : Nat}
variable {t u : Timers TimerKey Action}
variable {candidates : List Candidate}

theorem of_empty (hEmpty : t.pending = []) :
    Timely settings time t := by
  constructor <;> simp [hEmpty]

/- Time may go on. -/
theorem mono
    (hTimely : Timely settings time t)
    (hTime : time ≤ now) :
    Timely settings now t where
  past p hp := Nat.le_trans (hTimely.past p hp) hTime
  punctual := hTimely.punctual
  drawn := hTimely.drawn
  ordered := hTimely.ordered

/- What is due may fire. -/
theorem later (hTimely : Timely settings time t) (now : Nat) :
    Timely settings time (t.later now) where
  past p hp := hTimely.past p (Timers.mem_of_mem_later hp)
  punctual p hp :=
    hTimely.punctual p (Timers.mem_of_mem_later hp)
  drawn p hp := hTimely.drawn p (Timers.mem_of_mem_later hp)
  ordered p hp q hq :=
    hTimely.ordered p (Timers.mem_of_mem_later hp) q
      (Timers.mem_of_mem_later hq)

/- What happens now draws the last ticket. -/
theorem schedule
    {action : Action}
    (hTimely : Timely settings now t)
    (key : TimerKey)
    (hTime : action.timestamp = now) :
    Timely settings now
      (t.schedule key
        (clockAfter now (settings.delay key)) action) := by
  subst hTime
  constructor
  · intro p hp
    rcases Timers.mem_pending_schedule hp with hOld | rfl
    · exact hTimely.past p hOld
    · exact Nat.le_refl _
  · intro p hp
    rcases Timers.mem_pending_schedule hp with hOld | rfl
    · exact hTimely.punctual p hOld
    · rfl
  · intro p hp
    rcases Timers.mem_pending_schedule hp with hOld | rfl
    · exact Nat.lt_succ_of_lt (hTimely.drawn p hOld)
    · exact Nat.lt_succ_self _
  · intro p hp q hq hOrder
    rcases Timers.mem_pending_schedule hp with hOld | rfl
    · rcases Timers.mem_pending_schedule hq with hOther | rfl
      · exact hTimely.ordered p hOld q hOther hOrder
      · exact hTimely.past p hOld
    · rcases Timers.mem_pending_schedule hq with hOther | rfl
      · have hDrawn := hTimely.drawn q hOther
        exact absurd hOrder (Nat.not_le.mpr hDrawn)
      · exact Nat.le_refl _

/- A moment of recording keeps timers timely. -/
theorem tick
    (hTimely : Timely settings time t)
    (hTick : Tick settings t now u candidates)
    (hTime : time ≤ now) :
    Timely settings now u := by
  have hLater := (hTimely.mono hTime).later now
  cases hTick with
  | passed => exact hLater
  | delayed hNow => exact hLater.schedule _ hNow
  | taken _ hEmpty => exact of_empty hEmpty

/- A flush takes what waits in the order of times. -/
theorem pairwise_drawn (hTimely : Timely settings time t) :
    t.drawn.Pairwise
      (fun p q => p.value.timestamp ≤ q.value.timestamp) := by
  apply t.pairwise_drawn.imp_of_mem
  intro p q hp hq hOrder
  exact hTimely.ordered p (Timers.mem_drawn_iff.mp hp) q
    (Timers.mem_drawn_iff.mp hq) hOrder

/-
  What is due and what is flushed behind it come in the order
  of times, but for what is outpaced.
-/
theorem pairwise_fired
    (hTimely : Timely settings time t)
    (now : Nat) :
    (t.due now ++ (t.later now).drawn).Pairwise
      (fun p q =>
        p.value.timestamp ≤ q.value.timestamp ∨
          Outpaces t now p.value q.value) := by
  refine List.pairwise_append.mpr ⟨?_, ?_, ?_⟩
  · apply (t.pairwise_due now).imp_of_mem
    intro p q hp hq hFires
    rcases Timers.mem_due_iff.mp hp with ⟨hp, hDue⟩
    have hq := (Timers.mem_due_iff.mp hq).1
    rcases hFires with hEarlier | ⟨_, hOrder⟩
    · exact Or.inr ⟨p, hp, q, hq, rfl, rfl, hDue, hEarlier⟩
    · exact Or.inl (hTimely.ordered p hp q hq hOrder)
  · exact (hTimely.later now).pairwise_drawn.imp Or.inl
  · intro p hp q hq
    exact Or.inr
      (outpaces_of_mem_due hp (Timers.mem_drawn_iff.mp hq))

/- What comes up at a moment happened by then. -/
theorem forall_mem_tick
    (hTimely : Timely settings time t)
    (hTick : Tick settings t now u candidates)
    (hTime : time ≤ now) :
    ∀ candidate ∈ candidates,
      candidate.action.timestamp ≤ now := by
  have hNow := hTimely.mono hTime
  have hDue :
      ∀ p ∈ t.due now, p.value.timestamp ≤ now := fun p hp =>
    hNow.past p (Timers.mem_due_iff.mp hp).1
  intro candidate hCandidate
  cases hTick with
  | passed =>
      rcases List.mem_map.mp hCandidate with ⟨p, hp, rfl⟩
      exact hDue p hp
  | delayed _ =>
      rcases List.mem_map.mp hCandidate with ⟨p, hp, rfl⟩
      exact hDue p hp
  | taken hTaken _ =>
      rcases List.mem_append.mp hCandidate with hFired | hLast
      · rcases List.mem_map.mp hFired with ⟨p, hp, rfl⟩
        rcases List.mem_append.mp hp with hp | hp
        · exact hDue p hp
        · exact (hNow.later now).past p
            (Timers.mem_drawn_iff.mp hp)
      · rw [List.mem_singleton.mp hLast]
        exact Nat.le_of_eq hTaken

/- What comes up at a moment is in order, likewise. -/
theorem pairwise_tick
    (hTimely : Timely settings time t)
    (hTick : Tick settings t now u candidates)
    (hTime : time ≤ now) :
    candidates.Pairwise
      (fun c d =>
        c.action.timestamp ≤ d.action.timestamp ∨
          Outpaces t now c.action d.action) := by
  have hPast := hTimely.forall_mem_tick hTick hTime
  have hFired := hTimely.pairwise_fired now
  cases hTick with
  | passed =>
      exact List.pairwise_map.mpr
        (List.pairwise_append.mp hFired).1
  | delayed hNow =>
      exact List.pairwise_map.mpr
        (List.pairwise_append.mp hFired).1
  | taken hNow hEmpty =>
      refine List.pairwise_append.mpr
        ⟨List.pairwise_map.mpr hFired,
          List.pairwise_singleton _ _, ?_⟩
      intro c hc d hd
      rw [List.mem_singleton.mp hd]
      have hEarlier := hPast c (List.mem_append_left _ hc)
      rw [← hNow] at hEarlier
      exact Or.inl hEarlier

end Timely

/- What comes up now outpaces what goes on waiting. -/
theorem Tick.le_or_outpaces
    {settings : Settings}
    {now : Nat}
    {t u : Timers TimerKey Action}
    {candidates : List Candidate}
    {candidate : Candidate}
    {q : Pending TimerKey Action}
    (hTick : Tick settings t now u candidates)
    (hCandidate : candidate ∈ candidates)
    (hq : q ∈ u.pending) :
    now ≤ q.value.timestamp ∨
      Outpaces t now candidate.action q.value := by
  have hOutpaces :
      candidate ∈ (t.due now).map Pending.candidate →
        q ∈ (t.later now).pending →
          Outpaces t now candidate.action q.value := by
    intro hFired hq
    rcases List.mem_map.mp hFired with ⟨p, hp, rfl⟩
    exact outpaces_of_mem_due hp hq
  cases hTick with
  | passed => exact Or.inr (hOutpaces hCandidate hq)
  | delayed hNow =>
      rcases Timers.mem_pending_schedule hq with hOld | rfl
      · exact Or.inr (hOutpaces hCandidate hOld)
      · exact Or.inl (Nat.le_of_eq hNow.symm)
  | taken _ hEmpty =>
      rw [hEmpty] at hq
      cases hq

------------------------------------------------------------
-- Runs
------------------------------------------------------------

namespace Recorder

variable {r : Recorder}
variable {time : Nat}
variable {event : Event}
variable {events : List Event}
variable {fast slow : Action}

/- Events that are captured, and the flush behind them. -/
def captured (events : List Event) : List Command :=
  events.map .handle ++ [.flush]

theorem isOngoing_captured (events : List Event) :
    ∀ command ∈ captured events, command.IsOngoing := by
  intro command hCommand
  rcases List.mem_append.mp hCommand with hMem | hLast
  · rcases List.mem_map.mp hMem with ⟨event, _, rfl⟩
    exact trivial
  · rw [List.mem_singleton.mp hLast]
    exact trivial

/-
  Whether at some event one action fires although another one
  has to wait for longer.
-/
def Outruns
    (r : Recorder)
    (events : List Event)
    (fast slow : Action) : Prop :=
  ∃ before event rest,
    events = before ++ event :: rest ∧
      Outpaces (r.after (before.map .handle)).timers
        event.timestamp fast slow

theorem outruns_of_outpaces
    (hOutpaces :
      Outpaces r.timers event.timestamp fast slow) :
    r.Outruns (event :: events) fast slow :=
  ⟨[], event, events, rfl, hOutpaces⟩

theorem Outruns.cons
    (hOutruns :
      (r.execute (.handle event)).1.Outruns events fast slow) :
    r.Outruns (event :: events) fast slow := by
  rcases hOutruns with ⟨before, other, rest, rfl, hOutpaces⟩
  exact ⟨event :: before, other, rest, rfl, hOutpaces⟩

theorem phase_handle
    (hPhase : r.phase = .recording)
    (event : Event) :
    (r.execute (.handle event)).1.phase = .recording := by
  have hOngoing : (Command.handle event).IsOngoing := trivial
  exact (phase_execute hOngoing).trans hPhase

/-
  Timers stay timely from event to event. The induction is on
  the events before the one at which they are looked at.
-/
theorem timely_after
    {before rest : List Event}
    (hPhase : r.phase = .recording)
    (hTimely : Timely r.settings time r.timers)
    (hEvents :
      (time :: (before ++ event :: rest).map
        Event.timestamp).Pairwise (· ≤ ·)) :
    Timely r.settings event.timestamp
      (r.after (before.map .handle)).timers := by
  induction before generalizing r time with
  | nil =>
      have hTime := (List.pairwise_cons.mp hEvents).1
      exact hTimely.mono (hTime _ List.mem_cons_self)
  | cons first before ih =>
      rcases List.pairwise_cons.mp hEvents with ⟨hTime, hRest⟩
      have hNext :=
        hTimely.tick (tick_handle hPhase first)
          (hTime _ List.mem_cons_self)
      rw [← r.settings_execute (.handle first)] at hNext ⊢
      exact ih (phase_handle hPhase first) hNext hRest

/- What comes up from a time on waits or happens later. -/
theorem forall_mem_stream_captured
    (r : Recorder)
    (time : Nat)
    (hEvents : ∀ event ∈ events, time ≤ event.timestamp) :
    ∀ candidate ∈ r.stream (captured events),
      time ≤ candidate.action.timestamp ∨
        ∃ q ∈ r.timers.pending, q.value = candidate.action := by
  apply WaitsAs.forall_mem_stream
  · intro q hq
    exact Or.inr ⟨q, hq, rfl⟩
  · intro command hCommand
    rcases List.mem_append.mp hCommand with hMem | hLast
    · rcases List.mem_map.mp hMem with ⟨event, hEvent, rfl⟩
      intro location
      have hLater := hEvents event hEvent
      have hTime :=
        timestamp_interpret r.settings location event.normalise
      cases hVerdict :
          r.settings.interpret location event.normalise with
      | ignore => exact trivial
      | record action =>
          rw [hVerdict] at hTime
          have hSame := Nat.le_of_eq hTime.symm
          exact Or.inl (Nat.le_trans hLater hSame)
      | settle key deadline action =>
          rw [hVerdict] at hTime
          have hSame := Nat.le_of_eq hTime.symm
          exact Or.inl (Nat.le_trans hLater hSame)
    · rw [List.mem_singleton.mp hLast]
      exact trivial

/-
  What comes up during a run comes in the order of times, but
  for what is outrun. The induction is on the events; what
  comes up behind the first one waits by then or is no older.
-/
theorem pairwise_stream
    (hPhase : r.phase = .recording)
    (hTimely : Timely r.settings time r.timers)
    (hEvents :
      (time :: events.map Event.timestamp).Pairwise (· ≤ ·)) :
    (r.stream (captured events)).Pairwise
      (fun c d =>
        c.action.timestamp ≤ d.action.timestamp ∨
          r.Outruns events c.action d.action) := by
  induction events generalizing r time with
  | nil =>
      unfold captured
      rw [List.map_nil, List.nil_append, stream, stream,
        List.append_nil]
      unfold candidates
      rw [map_ofEntry_drain]
      exact List.pairwise_map.mpr
        (hTimely.pairwise_drawn.imp Or.inl)
  | cons event events ih =>
      rcases List.pairwise_cons.mp hEvents with ⟨hTime, hRest⟩
      have hLater := (List.pairwise_cons.mp hRest).1
      have hTick := tick_handle hPhase event
      have hNow := hTime _ List.mem_cons_self
      have hNext := hTimely.tick hTick hNow
      rw [← r.settings_execute (.handle event)] at hNext
      have hStream :=
        ih (phase_handle hPhase event) hNext hRest
      have hFirst := hTimely.pairwise_tick hTick hNow
      refine List.pairwise_append.mpr ⟨?_, ?_, ?_⟩
      · exact hFirst.imp (Or.imp_right outruns_of_outpaces)
      · exact hStream.imp (Or.imp_right Outruns.cons)
      · intro c hc d hd
        have hPast := hTimely.forall_mem_tick hTick hNow c hc
        have hBehind :=
          forall_mem_stream_captured
            (r.execute (.handle event)).1 event.timestamp
            (fun other hOther =>
              hLater _ (List.mem_map_of_mem hOther)) d hd
        have hOrder :
            event.timestamp ≤ d.action.timestamp ∨
              Outpaces r.timers event.timestamp c.action
                d.action := by
          rcases hBehind with hNewer | ⟨q, hq, hSame⟩
          · exact Or.inl hNewer
          · rw [← hSame]
            exact hTick.le_or_outpaces hc hq
        rcases hOrder with hNewer | hOutpaces
        · exact Or.inl (Nat.le_trans hPast hNewer)
        · exact Or.inr (outruns_of_outpaces hOutpaces)

/- What is recorded has come up, in the same order. -/
theorem sublist_history_captured
    (r : Recorder)
    (events : List Event) :
    (r.history (captured events)).Sublist
      ((r.stream (captured events)).map
        (fun candidate =>
          r.settings.sanitise candidate.action)) := by
  have hJudges :
      Judges r (r.stream (captured events))
        (r.after (captured events),
          r.history (captured events)) :=
    judges_stream (isOngoing_captured events)
  have hRecorded :
      r.history (captured events) =
        (r.judgeAll (r.stream (captured events))).2 :=
    hJudges.recorded
  rw [hRecorded]
  exact r.sublist_judgeAll _

/- What is recorded comes in the order of times, likewise. -/
theorem pairwise_history
    (hPhase : r.phase = .recording)
    (hTimely : Timely r.settings time r.timers)
    (hEvents :
      (time :: events.map Event.timestamp).Pairwise (· ≤ ·)) :
    (r.history (captured events)).Pairwise
      (fun a b =>
        a.timestamp ≤ b.timestamp ∨
          ∃ fast slow,
            r.Outruns events fast slow ∧
              a = r.settings.sanitise fast ∧
              b = r.settings.sanitise slow) := by
  refine List.Pairwise.sublist
    (r.sublist_history_captured events)
    (List.pairwise_map.mpr ?_)
  apply (pairwise_stream hPhase hTimely hEvents).imp
  rintro c d (hOrder | hOutruns)
  · exact Or.inl hOrder
  · exact Or.inr ⟨_, _, hOutruns, rfl, rfl⟩

/- A start records nothing or where the page is. -/
theorem recorded_start
    (r : Recorder)
    (address : Option String)
    (now : Nat) :
    r.recorded (.start address now) =
      (address.map fun url =>
        r.settings.sanitise
          (Action.navigate url none now)).toList := by
  cases address with
  | none => rfl
  | some url =>
      have hAccepts :
          (r.begun (some url)).Accepts
            (Action.navigate url none now) :=
        ⟨rfl, rfl⟩
      unfold recorded
      rw [execute_start_some, record_of_accepts hAccepts]
      rfl

theorem keeps_start
    (r : Recorder)
    (address : Option String)
    (now : Nat) :
    Keeps (r.begun address)
      (r.execute (.start address now)).1 := by
  cases address with
  | none => exact Keeps.rfl
  | some url =>
      rw [execute_start_some]
      exact keeps_record _ _

/- Nothing waits behind a start. -/
theorem pending_start
    (r : Recorder)
    (address : Option String)
    (now : Nat) :
    (r.execute (.start address now)).1.timers.pending = [] := by
  rw [(r.keeps_start address now).timers]
  rfl

/- Nothing is recorded that is older than the start. -/
theorem le_of_mem_history_start
    (r : Recorder)
    (address : Option String)
    {now : Nat}
    (hEvents : ∀ event ∈ events, now ≤ event.timestamp) :
    ∀ seen ∈
        (r.execute (.start address now)).1.history
          (captured events),
      now ≤ seen.timestamp := by
  have hSublist :=
    sublist_history_captured
      (r.execute (.start address now)).1 events
  intro seen hSeen
  rcases List.mem_map.mp (hSublist.subset hSeen) with
    ⟨candidate, hCandidate, rfl⟩
  rcases forall_mem_stream_captured _ now hEvents candidate
      hCandidate with hLater | ⟨q, hq, _⟩
  · exact hLater
  · rw [r.pending_start address now] at hq
    cases hq

/- What is recorded after a start is in order, likewise. -/
theorem pairwise_history_start
    (r : Recorder)
    (address : Option String)
    (now : Nat)
    (hEvents :
      (now :: events.map Event.timestamp).Pairwise (· ≤ ·)) :
    (r.history (.start address now :: captured events)).Pairwise
      (fun a b =>
        a.timestamp ≤ b.timestamp ∨
          ∃ fast slow,
            (r.execute (.start address now)).1.Outruns events
                fast slow ∧
              a = r.settings.sanitise fast ∧
              b = r.settings.sanitise slow) := by
  have hKeeps := r.keeps_start address now
  have hSettings : r.settings = _ :=
    (r.settings_execute (.start address now)).symm
  have hPending := r.pending_start address now
  have hTimes := (List.pairwise_cons.mp hEvents).1
  have hLater :=
    r.le_of_mem_history_start address fun event hEvent =>
      hTimes _ (List.mem_map_of_mem hEvent)
  rw [history, recorded_start]
  refine List.pairwise_append.mpr ⟨?_, ?_, ?_⟩
  · cases address with
    | none => exact List.Pairwise.nil
    | some url => exact List.pairwise_singleton _ _
  · rw [hSettings]
    exact pairwise_history hKeeps.phase
      (Timely.of_empty hPending) hEvents
  · intro a ha b hb
    rcases Option.map_eq_some_iff.mp (Option.mem_toList.mp ha)
      with ⟨url, _, rfl⟩
    exact Or.inl (hLater b hb)

/-
  A run of events at times that never decrease is recorded in
  the order of times just if no action is recorded that fired
  past an older one which is recorded behind it.
-/
theorem pairwise_history_iff
    (r : Recorder)
    (address : Option String)
    (now : Nat)
    {events : List Event}
    (hEvents :
      (now :: events.map Event.timestamp).Pairwise (· ≤ ·)) :
    (r.history (.start address now :: captured events)).Pairwise
        (fun a b => a.timestamp ≤ b.timestamp) ↔
      ∀ fast slow,
        (r.execute (.start address now)).1.Outruns events fast
            slow →
          slow.timestamp < fast.timestamp →
            ¬ [r.settings.sanitise fast,
                r.settings.sanitise slow].Sublist
              (r.history
                (.start address now :: captured events)) := by
  constructor
  · intro hOrdered fast slow _ hOlder hSublist
    have hOrder :=
      List.pairwise_iff_forall_sublist.mp hOrdered hSublist
    exact Nat.not_le.mpr hOlder hOrder
  · intro hNone
    refine List.pairwise_iff_forall_sublist.mpr ?_
    intro a b hSublist
    rcases List.pairwise_iff_forall_sublist.mp
        (r.pairwise_history_start address now hEvents)
        hSublist with hOrder | ⟨fast, slow, hOutruns, rfl, rfl⟩
    · exact hOrder
    · apply Nat.not_lt.mp
      intro hOlder
      exact hNone fast slow hOutruns hOlder hSublist

/- A field one types into, and an element with a hint. -/
def query : Element where
  tagName := "input"
  attributes := Attributes.ofList [("name", "q")]
  form := { value := some "a" }

def helpButton : Element where
  tagName := "button"
  attributes := Attributes.ofList [("title", "Help")]

/-
  Something is typed, the pointer comes to a button, and the
  field gets the focus, at some time after that.
-/
def glance (time : Nat) : List Event :=
  [⟨.gesture .input query, 100⟩,
    ⟨.gesture .mouseOver helpButton, 200⟩,
    ⟨.gesture .focus query, time⟩]

/- A focus before the pointer has rested flushes both. -/
theorem pairwise_history_iff_glance :
    (0 :: (glance 300).map Event.timestamp).Pairwise (· ≤ ·) ∧
      ((new {}).history
          (.start none 0 :: captured (glance 300))).map
            (fun a => (a.kind, a.timestamp)) =
        [(.type, 100), (.hover, 200), (.focus, 300)] ∧
      ∀ fast slow,
        ((new {}).execute (.start none 0)).1.Outruns
            (glance 300) fast slow →
          slow.timestamp < fast.timestamp →
            ¬ [(new {}).settings.sanitise fast,
                (new {}).settings.sanitise slow].Sublist
              ((new {}).history
                (.start none 0 :: captured (glance 300))) :=
  ⟨by decide, by decide,
    ((new {}).pairwise_history_iff none 0 (by decide)).mp
      (by decide)⟩

/-
  A focus after the pointer has rested but before the typing
  has settled: the rest of the pointer is recorded first.
-/
theorem glance_out_of_order :
    (0 :: (glance 600).map Event.timestamp).Pairwise (· ≤ ·) ∧
      ((new {}).history
          (.start none 0 :: captured (glance 600))).map
            (fun a => (a.kind, a.timestamp)) =
        [(.hover, 200), (.type, 100), (.focus, 600)] ∧
      ¬ ((new {}).history
          (.start none 0 :: captured (glance 600))).Pairwise
            (fun a b => a.timestamp ≤ b.timestamp) := by
  decide

end Recorder

end Capture

end Clickstream
