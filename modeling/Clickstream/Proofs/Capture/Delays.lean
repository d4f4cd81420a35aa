import Clickstream.Proofs.Capture.Chronology

/-
  Delays: the settings under which every run is recorded in
  the order of times, while the clock does not start again.
  These are the ones whose delays are level. Under any others
  there are two actions of which the later one settles first.

  Key definitions:
    * `Settings.IsLevel`
    * `Settings.CanWait`: whether the clock goes on for long
      enough
    * `Prompts`: an event lets an action wait that is news
    * `Recorder.Lacks`: nothing of a kind is remembered yet

  Key theorems:
    * `Recorder.le_of_outruns`
    * `exists_prompts`
    * `Recorder.history_race`
    * `Settings.isLevel_iff`
-/

namespace Clickstream

namespace Capture

------------------------------------------------------------
-- Level Delays
------------------------------------------------------------

/- Whether no delay exceeds another by over a millisecond. -/
def Settings.IsLevel (settings : Settings) : Prop :=
  ∀ key other : TimerKey,
    settings.delay key ≤ settings.delay other + 1

/-
  Whether the clock goes on until an action has waited under
  a key.
-/
def Settings.CanWait
    (settings : Settings)
    (key : TimerKey)
    (action : Action) : Prop :=
  action.timestamp + settings.delay key < UInt64.size

/- Whether it does so for all that an event lets wait. -/
def Settings.HasTimeFor
    (settings : Settings)
    (event : Event) : Prop :=
  (Command.handle event).Schedules settings settings.CanWait

/- All actions of a kind wait for as long. -/
theorem Settings.delay_congr
    {settings : Settings}
    {key other : TimerKey}
    (hKind : key.kind = other.kind) :
    settings.delay key = settings.delay other := by
  cases key <;> cases other <;>
    first | rfl | cases hKind

namespace Recorder

variable {r : Recorder}
variable {time : Nat}
variable {events : List Event}
variable {fast slow : Action}

/- Under level delays nothing is outrun by what is newer. -/
theorem le_of_outruns
    (hLevel : r.settings.IsLevel)
    (hPhase : r.phase = .recording)
    (hTimely : Timely r.settings time r.timers)
    (hWaits : r.Waits r.settings.CanWait)
    (hEvents :
      (time :: events.map Event.timestamp).Pairwise (· ≤ ·))
    (hTime : ∀ event ∈ events, r.settings.HasTimeFor event)
    (hOutruns : r.Outruns events fast slow) :
    fast.timestamp ≤ slow.timestamp := by
  rcases hOutruns with
    ⟨before, event, rest, rfl, p, hp, q, hq, rfl, rfl, _,
      hEarlier⟩
  have hAfter := timely_after hPhase hTimely hEvents
  have hRoom :
      (r.after (before.map .handle)).Waits
        r.settings.CanWait := by
    apply hWaits.after
    intro command hCommand
    rcases List.mem_map.mp hCommand with ⟨first, hFirst, rfl⟩
    exact hTime first (List.mem_append_left _ hFirst)
  have hFast := hAfter.punctual p hp
  have hSlow := hAfter.punctual q hq
  rw [clockAfter_of_lt (hRoom p hp)] at hFast
  rw [clockAfter_of_lt (hRoom q hq)] at hSlow
  have hGap := hLevel q.key p.key
  omega

/- Then every run is recorded in the order of times. -/
theorem pairwise_history_of_isLevel
    (r : Recorder)
    (address : Option String)
    (now : Nat)
    (hLevel : r.settings.IsLevel)
    (hEvents :
      (now :: events.map Event.timestamp).Pairwise (· ≤ ·))
    (hTime : ∀ event ∈ events, r.settings.HasTimeFor event) :
    (r.history (.start address now :: captured events)).Pairwise
      (fun a b => a.timestamp ≤ b.timestamp) := by
  have hPhase := (r.keeps_start address now).phase
  have hPending := r.pending_start address now
  rw [← r.settings_execute (.start address now)]
    at hLevel hTime
  apply (r.pairwise_history_start address now hEvents).imp
  rintro a b (hOrder | ⟨fast, slow, hOutruns, rfl, rfl⟩)
  · exact hOrder
  · have hOrder :=
      le_of_outruns hLevel hPhase
        (Timely.of_empty hPending)
        (waits_of_pending_eq_nil hPending) hEvents hTime
        hOutruns
    exact hOrder

------------------------------------------------------------
-- Prompts
------------------------------------------------------------

/- Whether nothing is remembered of what waits under a key. -/
def Lacks (r : Recorder) : TimerKey → Prop
  | .typing _ => r.lastValues = []
  | .hover => True
  | .scroll => r.lastScroll = (0, 0)

/- Recording and remembering concern no other kind. -/
theorem Lacks.remember
    {key other : TimerKey}
    {action : Action}
    (hLacks : r.Lacks key)
    (hKinds : key.kind ≠ other.kind)
    (hAccepts : r.Accepts action) :
    ((r.record action).1.remember other action).Lacks key := by
  rw [record_of_accepts hAccepts]
  unfold follow
  split <;> cases key <;> cases other <;>
    first | exact hLacks | exact absurd rfl hKinds

end Recorder

/-
  Whether an event lets an action wait under a key, wherever
  the page is, and the action is news to a recorder that has
  nothing of its kind in mind.
-/
structure Prompts
    (settings : Settings)
    (event : Event)
    (key : TimerKey)
    (action : Action) : Prop where
  verdict :
    ∀ location,
      settings.interpret location event.normalise =
        .settle key
          (clockAfter event.timestamp (settings.delay key))
          action
  kind : action.kind = key.kind
  isNews :
    ∀ r : Recorder,
      r.settings = settings → r.Lacks key → r.IsNews key action

theorem Prompts.timestamp
    {settings : Settings}
    {event : Event}
    {key : TimerKey}
    {action : Action}
    (hPrompts : Prompts settings event key action) :
    action.timestamp = event.timestamp :=
  (timestamp_interpret settings none event.normalise).of_settle
    (hPrompts.verdict none)

theorem Prompts.hasTimeFor
    {settings : Settings}
    {event : Event}
    {key : TimerKey}
    {action : Action}
    (hPrompts : Prompts settings event key action)
    (hRoom :
      event.timestamp + settings.delay key < UInt64.size) :
    settings.HasTimeFor event := by
  intro location other deadline taken hVerdict
  rw [hPrompts.verdict location] at hVerdict
  cases hVerdict
  unfold Settings.CanWait
  rw [hPrompts.timestamp]
  exact hRoom

/- How far to scroll down so that it counts. -/
def Settings.farDown (settings : Settings) : Int :=
  (settings.scrollThreshold + 1).toNat

/- There are coordinates beyond all thresholds but the last. -/
theorem Settings.lt_distance_farDown
    {settings : Settings}
    (hThreshold :
      settings.scrollThreshold < Int64.maxValue.toInt) :
    settings.scrollThreshold <
      distance 0 settings.farDown := by
  rw [Int64.toInt_maxValue] at hThreshold
  unfold farDown
  rw [distance_eq_natAbs]
  · omega
  · rw [Int64.toInt_maxValue]
    omega

/-
  There are prompts of every kind at every time, if there are
  coordinates beyond the threshold.
-/
theorem exists_prompts
    (settings : Settings)
    (hThreshold :
      settings.scrollThreshold < Int64.maxValue.toInt)
    (key : TimerKey)
    (time : Nat) :
    ∃ event other action,
      event.timestamp = time ∧
        other.kind = key.kind ∧
        Prompts settings event other action := by
  cases key with
  | typing field =>
      refine ⟨⟨.gesture .input Recorder.query, time⟩,
        .typing (fieldOf (Recorder.query.normalise.action .type
          time)),
        withSomeValue
          (Recorder.query.normalise.action .type time),
        rfl, rfl, fun location => rfl, rfl, ?_⟩
      intro r hSettings hLacks
      have hValues : r.lastValues = [] := hLacks
      unfold Recorder.IsNews Recorder.lastValue?
      rw [hValues]
      exact nofun
  | hover =>
      refine ⟨⟨.gesture .mouseOver Recorder.helpButton, time⟩,
        .hover, Recorder.helpButton.normalise.action .hover time,
        rfl, rfl, fun location => rfl, rfl, ?_⟩
      exact fun r _ _ => trivial
  | scroll =>
      refine ⟨⟨.scroll none 0 settings.farDown, time⟩, .scroll,
        { scrollDraft none time with
          scrollX := some 0
          scrollY := some settings.farDown },
        rfl, rfl, fun location => rfl, rfl, ?_⟩
      intro r hSettings hLacks
      have hScroll : r.lastScroll = (0, 0) := hLacks
      unfold Recorder.IsNews
      rw [hSettings, hScroll]
      exact Int.lt_of_lt_of_le
        (Settings.lt_distance_farDown hThreshold)
        (Int.le_max_right _ _)

------------------------------------------------------------
-- Races
------------------------------------------------------------

namespace Recorder

variable {r : Recorder}
variable {first second : Event}
variable {key other : TimerKey}
variable {action slow fast : Action}

/- An event that means nothing, but lets time go on. -/
def pause (time : Nat) : Event :=
  ⟨.gesture .blur {}, time⟩

theorem interpret_pause
    (settings : Settings)
    (location : Option String)
    (time : Nat) :
    settings.interpret location (pause time).normalise =
      .ignore :=
  rfl

/- Two events, and a delay behind the second one. -/
def race (first second : Event) (delay : Nat) : List Event :=
  [first, second, pause (second.timestamp + delay)]

/-
  An action that settles before one that came earlier comes up
  before it, too, if the clock goes on for both.
-/
theorem stream_race
    (hPhase : r.phase = .recording)
    (hTimers : r.timers = Timers.empty)
    (hSlow : Prompts r.settings first key slow)
    (hFast : Prompts r.settings second other fast)
    (hKinds : key.kind ≠ other.kind)
    (hSooner :
      second.timestamp + r.settings.delay other <
        first.timestamp + r.settings.delay key)
    (hRoom :
      first.timestamp + r.settings.delay key < UInt64.size) :
    r.stream
        (captured
          (race first second (r.settings.delay other))) =
      [⟨some other, fast⟩, ⟨some key, slow⟩] := by
  have hKeys : key ≠ other := fun hSame =>
    hKinds (congrArg TimerKey.kind hSame)
  have hSecond :
      second.timestamp <
        first.timestamp + r.settings.delay key :=
    Nat.lt_of_le_of_lt (Nat.le_add_right _ _) hSooner
  rcases tick_of_settle hPhase (hSlow.verdict _) with
    ⟨hOne, hNone⟩
  have hOnePhase := phase_handle hPhase first
  have hOneSettings := r.settings_execute (.handle first)
  unfold captured race
  rw [List.map_cons, List.cons_append, stream, hNone]
  generalize (r.execute (.handle first)).1 = s at *
  rw [← hOneSettings] at hFast
  rcases tick_of_settle hOnePhase (hFast.verdict _) with
    ⟨hTwo, hStill⟩
  have hTwoPhase := phase_handle hOnePhase second
  rw [List.map_cons, List.cons_append, stream, hStill]
  generalize (s.execute (.handle second)).1 = u at *
  rcases tick_of_ignore hTwoPhase (interpret_pause _ _ _) with
    ⟨hThree, hFires⟩
  rw [List.map_cons, List.cons_append, stream, hFires,
    List.map_nil, List.nil_append, stream, stream]
  unfold candidates
  rw [map_ofEntry_drain, hThree, hTwo, hOne, hTimers]
  have hNotYet := Nat.not_le.mpr hSooner
  simp [Timers.empty, Timers.schedule, Timers.cancel,
    Timers.later, Timers.due_eq_insertionSort, Timers.drawn,
    pause, Pending.candidate, hKeys, hSecond, hSooner, hNotYet,
    hOneSettings, clockAfter_of_lt hRoom,
    clockAfter_of_lt (Nat.lt_trans hSooner hRoom)]

/- An action of another kind is accepted behind one. -/
theorem accepts_of_kind_ne
    (hKind : action.kind = key.kind)
    (hLast :
      ∀ last,
        r.lastRecorded = some last → last.kind ≠ action.kind) :
    r.Accepts action := by
  have hNavigation : action.isNavigation = false := by
    unfold Action.isNavigation
    rw [hKind]
    cases key <;> rfl
  have hSubmit : action.kind ≠ .submit := by
    rw [hKind]
    cases key <;> exact nofun
  constructor
  · unfold isDeadNavigation
    rw [hNavigation]
    rfl
  · unfold isDuplicate
    rw [hNavigation]
    cases hBefore : r.lastRecorded with
    | none => rfl
    | some last =>
        have hOther := hLast last hBefore
        have hTarget : ¬ last.SameTarget action :=
          fun hSame => hOther hSame.1
        simp [isRepeated, hSubmit, hTarget]

/- What settles is the last to be recorded. -/
theorem lastRecorded_settle
    (hSettles : r.Settles key action) :
    (r.settle key action).1.lastRecorded =
      some (r.settings.sanitise action) := by
  rw [settle_of_settles hSettles,
    record_of_accepts hSettles.accepts]
  cases key <;> rfl

/- Both actions of such a race are recorded. -/
theorem history_race
    (hPhase : r.phase = .recording)
    (hTimers : r.timers = Timers.empty)
    (hLast : r.lastRecorded = none)
    (hLacks : ∀ key, r.Lacks key)
    (hSlow : Prompts r.settings first key slow)
    (hFast : Prompts r.settings second other fast)
    (hKinds : key.kind ≠ other.kind)
    (hSooner :
      second.timestamp + r.settings.delay other <
        first.timestamp + r.settings.delay key)
    (hRoom :
      first.timestamp + r.settings.delay key < UInt64.size) :
    r.history
        (captured
          (race first second (r.settings.delay other))) =
      [r.settings.sanitise fast, r.settings.sanitise slow] := by
  have hStream :=
    stream_race hPhase hTimers hSlow hFast hKinds hSooner
      hRoom
  have hAccepts : r.Accepts fast := by
    apply accepts_of_kind_ne hFast.kind
    intro last hBefore
    rw [hLast] at hBefore
    cases hBefore
  have hFastSettles : r.Settles other fast :=
    ⟨hPhase, hFast.isNews r rfl (hLacks other), hAccepts⟩
  have hKeeps := r.keeps_settle other fast
  have hSettled := settle_of_settles hFastSettles
  have hSlowSettles :
      (r.settle other fast).1.Settles key slow := by
    refine ⟨hKeeps.phase.trans hPhase, ?_, ?_⟩
    · apply hSlow.isNews _ hKeeps.settings
      rw [hSettled]
      exact (hLacks key).remember hKinds hAccepts
    · apply accepts_of_kind_ne hSlow.kind
      intro last hBefore
      rw [lastRecorded_settle hFastSettles] at hBefore
      rw [← Option.some.inj hBefore, hSlow.kind]
      exact fun hSame => hKinds (hSame.symm.trans hFast.kind)
  have hOngoing :=
    isOngoing_captured
      (race first second (r.settings.delay other))
  have hJudges : Judges r _ _ := judges_stream hOngoing
  rw [hStream] at hJudges
  have hRecorded := hJudges.recorded
  dsimp only at hRecorded
  rw [hRecorded, judgeAll, judgeAll_singleton]
  unfold judge
  dsimp only
  rw [settle_of_settles hSlowSettles, hKeeps.settings, hSettled]
  rfl

end Recorder

/-
  Under settings that are not level, some run is recorded out
  of the order of times.
-/
theorem Settings.exists_out_of_order
    {settings : Settings}
    {key other : TimerKey}
    (hThreshold :
      settings.scrollThreshold < Int64.maxValue.toInt)
    (hDelay : settings.delay key < UInt64.size)
    (hGap : settings.delay other + 1 < settings.delay key) :
    ∃ events : List Event,
      (0 :: events.map Event.timestamp).Pairwise (· ≤ ·) ∧
        (∀ event ∈ events, settings.HasTimeFor event) ∧
        ¬ ((Recorder.new settings).history
            (.start none 0 ::
              Recorder.captured events)).Pairwise
                (fun a b => a.timestamp ≤ b.timestamp) := by
  rcases exists_prompts settings hThreshold key 0 with
    ⟨first, slowKey, slow, hFirst, hSlowKind, hSlow⟩
  rcases exists_prompts settings hThreshold other 1 with
    ⟨second, fastKey, fast, hSecond, hFastKind, hFast⟩
  rw [← delay_congr hSlowKind] at hDelay hGap
  rw [← delay_congr hFastKind] at hGap
  have hKinds : slowKey.kind ≠ fastKey.kind := by
    intro hSame
    rw [delay_congr hSame] at hGap
    omega
  have hSooner :
      second.timestamp + settings.delay fastKey <
        first.timestamp + settings.delay slowKey := by
    omega
  have hRoom :
      first.timestamp + settings.delay slowKey <
        UInt64.size := by
    omega
  have hLacks :
      ∀ key, ((Recorder.new settings).begun none).Lacks key := by
    intro key
    cases key <;> first | rfl | trivial
  have hRace :
      ((Recorder.new settings).begun none).history _ =
        [settings.sanitise fast, settings.sanitise slow] :=
    Recorder.history_race rfl rfl rfl hLacks hSlow hFast hKinds
      hSooner hRoom
  refine
    ⟨Recorder.race first second (settings.delay fastKey),
      ?_, ?_, ?_⟩
  · simp [Recorder.race, Recorder.pause, hFirst, hSecond]
  · unfold Recorder.race
    intro event hEvent
    rcases List.mem_cons.mp hEvent with rfl | hEvent
    · exact hSlow.hasTimeFor hRoom
    rcases List.mem_cons.mp hEvent with rfl | hEvent
    · exact hFast.hasTimeFor (Nat.lt_trans hSooner hRoom)
    · intro location other deadline taken hVerdict
      rw [List.mem_singleton.mp hEvent,
        Recorder.interpret_pause] at hVerdict
      cases hVerdict
  · intro hOrdered
    have hPair :
        [settings.sanitise fast,
          settings.sanitise slow].Pairwise
            (fun a b => a.timestamp ≤ b.timestamp) := by
      rw [← hRace]
      exact hOrdered
    have hOrder := List.pairwise_pair.mp hPair
    change fast.timestamp ≤ slow.timestamp at hOrder
    have hFastTime := hFast.timestamp
    have hSlowTime := hSlow.timestamp
    omega

/-
  The settings under which all runs are recorded in the order
  of times, if the clock goes on for all that waits in them,
  are the level ones.
-/
theorem Settings.isLevel_iff
    (settings : Settings)
    (hThreshold :
      settings.scrollThreshold < Int64.maxValue.toInt)
    (hDelays : ∀ key, settings.delay key < UInt64.size) :
    settings.IsLevel ↔
      ∀ (r : Recorder) (address : Option String) (now : Nat)
        (events : List Event),
        r.settings = settings →
          (now :: events.map Event.timestamp).Pairwise
              (· ≤ ·) →
            (∀ event ∈ events, settings.HasTimeFor event) →
              (r.history
                (.start address now ::
                  Recorder.captured events)).Pairwise
                    (fun a b => a.timestamp ≤ b.timestamp) := by
  constructor
  · rintro hLevel r address now events rfl hEvents hTime
    exact r.pairwise_history_of_isLevel address now hLevel
      hEvents hTime
  · intro hOrdered key other
    apply Nat.not_lt.mp
    intro hGap
    rcases exists_out_of_order hThreshold (hDelays key) hGap
      with ⟨events, hEvents, hTime, hNot⟩
    exact hNot (hOrdered _ none 0 events rfl hEvents hTime)

end Capture

end Clickstream
