import Clickstream.Proofs.Capture.Redaction
import Clickstream.Proofs.Capture.Postponed

/-
  The location of a page: what a recorder knows of it, and
  how a mutation is told from a navigation by it. A mutation
  that leaves the address alone is no more than a poll, and
  one that changes it is always recorded.

  The last known address and that of the last navigation are
  two fields that are written at different times. No change of
  address is taken for a dead navigation because the second
  one, if there is one at all, is the same as the first.

  Key definitions:
    * `Command.locates`, `knownLocation`
    * `Recorder.Knows`: what is known, and remembered
    * `Recorder.Stays`: nothing of it changes

  Key theorems:
    * `isPlain_interpret`
    * `Recorder.Knows.record`, `Recorder.Knows.after`
    * `Recorder.execute_mutation_of_recording`
-/

namespace Clickstream

/- The address that an occurrence makes known. -/
def Occurrence.address? : Occurrence → Option String
  | .mutation address => some address
  | .unload address => some address
  | _ => none

theorem Occurrence.address?_mapTarget
    (f : Element → Element)
    (occurrence : Occurrence) :
    (occurrence.mapTarget f).address? =
      occurrence.address? := by
  cases occurrence <;> rfl

namespace Capture

------------------------------------------------------------
-- Known Locations
------------------------------------------------------------

/-
  The address known after a command, given the one known
  before it. A start makes its own address known, or none.
-/
def Command.locates
    (known : Option String) : Command → Option String
  | start address _ => address
  | handle event => event.occurrence.address?.or known
  | append action => action.address?.or known
  | _ => known

/- The last address made known since the latest start. -/
def knownLocation (commands : List Command) : Option String :=
  commands.foldl Command.locates none

------------------------------------------------------------
-- Events
------------------------------------------------------------

/- Whether an action is anything but a navigation. -/
def IsPlain (a : Action) : Prop :=
  a.isNavigation = false

theorem isPlain_interpretClick
    (e : Element)
    (clicks button timestamp : Nat) :
    (interpretClick e clicks button timestamp).Only IsPlain := by
  have hKind : clickKind e clicks button ≠ .navigate := by
    intro hKind
    have hMem := clickKind_mem e clicks button
    rw [hKind] at hMem
    exact absurd hMem (by decide)
  unfold interpretClick
  refine Verdict.only_ite trivial ?_
  refine Verdict.only_ite trivial ?_
  exact decide_eq_false hKind

theorem isPlain_interpretGesture
    (settings : Settings)
    (gesture : Gesture)
    (e : Element)
    (timestamp : Nat) :
    (settings.interpretGesture gesture e timestamp).Only
      IsPlain := by
  have hChange :
      (settings.interpretChange e timestamp).Only IsPlain := by
    unfold Settings.interpretChange
    refine Verdict.only_ite trivial ?_
    refine Verdict.only_ite rfl ?_
    refine Verdict.only_ite rfl ?_
    refine Verdict.only_ite rfl ?_
    exact Verdict.only_ite rfl trivial
  cases gesture with
  | contextMenu => exact isPlain_interpretClick e 1 2 timestamp
  | input => exact hChange
  | change => exact hChange
  | focus => exact Verdict.only_ite rfl trivial
  | blur => exact Verdict.only_ite rfl trivial
  | mouseOver => exact Verdict.only_ite trivial rfl
  | submit => rfl
  | dragStart => rfl
  | drop => rfl

/- Only a new address makes an event a navigation. -/
theorem isPlain_interpret
    (settings : Settings)
    (location : Option String)
    {event : Event}
    (hAddress : event.occurrence.address? = none) :
    (settings.interpret location event).Only IsPlain := by
  unfold Settings.interpret
  cases hOccurrence : event.occurrence with
  | gesture gesture e =>
      exact isPlain_interpretGesture settings gesture e _
  | click e clicks button =>
      exact isPlain_interpretClick e clicks button _
  | keyDown e key modifiers =>
      exact Verdict.only_ite rfl trivial
  | scroll target x y =>
      show (scrollDraft target event.timestamp).isNavigation =
        false
      unfold scrollDraft
      repeat' split
      all_goals rfl
  | mutation address =>
      rw [hOccurrence] at hAddress
      cases hAddress
  | unload address =>
      rw [hOccurrence] at hAddress
      cases hAddress

/- What waits is never a navigation. -/
theorem Command.schedules_isPlain
    (settings : Settings)
    (command : Command) :
    command.Schedules settings fun _ action => IsPlain action := by
  cases command with
  | handle event =>
      intro location key deadline action hVerdict
      have hSuits :=
        schedules_suits settings (.handle event) location key
          deadline action hVerdict
      unfold IsPlain Action.isNavigation
      rw [hSuits.kind]
      cases key <;> rfl
  | _ => trivial

namespace Recorder

variable {r s : Recorder}
variable {known : Option String}
variable {action : Action}

------------------------------------------------------------
-- Staying
------------------------------------------------------------

/- Whether nothing that concerns the location changes. -/
structure Stays (r s : Recorder) : Prop where
  location : s.location = r.location
  lastNavigation : s.lastNavigation = r.lastNavigation

namespace Stays

theorem refl (r : Recorder) : Stays r r :=
  ⟨rfl, rfl⟩

theorem trans
    {q : Recorder}
    (hFirst : Stays q r)
    (hSecond : Stays r s) :
    Stays q s where
  location := hSecond.location.trans hFirst.location
  lastNavigation :=
    hSecond.lastNavigation.trans hFirst.lastNavigation

theorem record
    (r : Recorder)
    (hPlain : IsPlain action) :
    Stays r (r.record action).1 := by
  by_cases hAccepts : r.Accepts action
  · have hFollow : r.follow action = r := by
      unfold follow
      rw [if_neg (Bool.eq_false_iff.mp hPlain)]
    rw [record_of_accepts hAccepts, hFollow]
    exact ⟨rfl, rfl⟩
  · rw [record_of_not_accepts hAccepts]
    exact refl r

theorem settle
    (r : Recorder)
    (key : TimerKey)
    (hPlain : IsPlain action) :
    Stays r (r.settle key action).1 := by
  by_cases hSettles : r.Settles key action
  · have hRemember :
        Stays (r.record action).1
          ((r.record action).1.remember key action) := by
      cases key <;> exact ⟨rfl, rfl⟩
    rw [settle_of_settles hSettles]
    exact (record r hPlain).trans hRemember
  · rw [settle_of_not_settles hSettles]
    exact refl r

theorem settleAll
    (r : Recorder)
    {entries : List (TimerKey × Action)}
    (hPlain : ∀ entry ∈ entries, IsPlain entry.2) :
    Stays r (r.settleAll entries).1 := by
  induction entries generalizing r with
  | nil => exact refl r
  | cons entry entries ih =>
      have hFirst := hPlain entry List.mem_cons_self
      have hRest := ih (r.settle entry.1 entry.2).1
        fun other hOther =>
          hPlain other (List.mem_cons_of_mem _ hOther)
      rw [settleAll_cons]
      exact (settle r entry.1 hFirst).trans hRest

end Stays

/- Whether nothing that waits is a navigation. -/
def WaitsPlain (r : Recorder) : Prop :=
  r.Waits fun _ action => IsPlain action

/- Polling and flushing lead nowhere. -/
theorem WaitsPlain.stays_poll
    (hWaits : r.WaitsPlain)
    (now : Nat) :
    Stays r (r.poll now).1 := by
  have hSettled :
      Stays { r with timers := r.timers.later now }
        (r.poll now).1 := by
    apply Stays.settleAll
    intro entry hEntry
    rcases Timers.exists_of_mem_takeDue hEntry with
      ⟨p, hp, rfl⟩
    exact hWaits p hp
  exact ⟨hSettled.location, hSettled.lastNavigation⟩

theorem WaitsPlain.stays_flush
    (hWaits : r.WaitsPlain) :
    Stays r r.flush.1 := by
  have hSettled :
      Stays { r with timers := r.timers.clear } r.flush.1 := by
    apply Stays.settleAll
    intro entry hEntry
    rcases Timers.exists_of_mem_drain hEntry with
      ⟨p, hp, rfl⟩
    exact hWaits p hp
  exact ⟨hSettled.location, hSettled.lastNavigation⟩

------------------------------------------------------------
-- Knowing
------------------------------------------------------------

/-
  Whether an address, or none, is the last known one, and no
  other address is that of the last navigation. The address of
  the last navigation may be missing where the page went
  somewhere unknown.
-/
structure Knows
    (known : Option String)
    (r : Recorder) : Prop where
  location : r.location = known
  lastNavigation :
    r.lastNavigation = none ∨ r.lastNavigation = known

namespace Knows

theorem of_stays
    (hKnows : r.Knows known)
    (hStays : Stays r s) :
    s.Knows known where
  location := hStays.location.trans hKnows.location
  lastNavigation := by
    rw [hStays.lastNavigation]
    exact hKnows.lastNavigation

/- A navigation is only dropped where the last one went. -/
theorem exists_url_of_not_accepts
    (hNavigation : action.isNavigation = true)
    (hAccepts : ¬ r.Accepts action) :
    ∃ url,
      action.url = some url ∧ r.lastNavigation = some url := by
  have hNew : r.isDuplicate action = false := by
    unfold isDuplicate
    rw [hNavigation]
    rfl
  have hDead : r.isDeadNavigation action = true := by
    cases hDead : r.isDeadNavigation action with
    | true => rfl
    | false => exact absurd ⟨hDead, hNew⟩ hAccepts
  unfold isDeadNavigation at hDead
  rw [hNavigation, Bool.true_and, Bool.and_eq_true,
    decide_eq_true_eq] at hDead
  rcases Option.isSome_iff_exists.mp hDead.1 with ⟨url, hUrl⟩
  exact ⟨url, hUrl, hDead.2.symm.trans hUrl⟩

/-
  An action makes its address known, also where it is dropped:
  then the address was known before.
-/
theorem record
    (hKnows : r.Knows known)
    (action : Action) :
    (r.record action).1.Knows (action.address?.or known) := by
  unfold Action.address?
  cases hNavigation : action.isNavigation with
  | false =>
      exact hKnows.of_stays (Stays.record r hNavigation)
  | true =>
      rw [if_pos rfl]
      by_cases hAccepts : r.Accepts action
      · rw [record_of_accepts hAccepts]
        unfold follow
        rw [if_pos hNavigation]
        constructor
        · show action.url.or r.location = action.url.or known
          rw [hKnows.location]
        · show action.url = none ∨
            action.url = action.url.or known
          cases action.url with
          | none => exact Or.inl rfl
          | some url => exact Or.inr rfl
      · rcases exists_url_of_not_accepts hNavigation hAccepts
          with ⟨url, hUrl, hLast⟩
        have hKnown : known = some url := by
          rcases hKnows.lastNavigation with hNone | hSame
          · rw [hLast] at hNone
            cases hNone
          · exact hSame.symm.trans hLast
        rw [record_of_not_accepts hAccepts, hUrl, ← hKnown,
          Option.or_self]
        exact hKnows

theorem recordInOrder
    (hKnows : r.Knows known)
    (hWaits : r.WaitsPlain)
    (action : Action) :
    (r.recordInOrder action).1.Knows
      (action.address?.or known) :=
  (hKnows.of_stays hWaits.stays_flush).record action

end Knows

/- A mutation that leaves the address alone means nothing. -/
theorem react_mutation_of_known
    {address : String}
    {timestamp : Nat}
    (hLocation : r.location = some address) :
    r.react ⟨.mutation address, timestamp⟩ = (r, []) := by
  have hVerdict :
      r.settings.interpret r.location
          ⟨.mutation address, timestamp⟩ =
        .ignore := by
    unfold Settings.interpret
    dsimp only
    rw [if_pos hLocation]
  unfold react
  rw [hVerdict]

/-
  A mutation to another address is recorded behind all that
  waits. It is not dropped, as the last navigation did not go
  there.
-/
theorem Knows.react_mutation
    {address : String}
    (hKnows : r.Knows known)
    (hWaits : r.WaitsPlain)
    (hOther : known ≠ some address)
    (timestamp : Nat) :
    (r.react ⟨.mutation address, timestamp⟩).1.Knows
        (some address) ∧
      ∃ earlier,
        (r.react ⟨.mutation address, timestamp⟩).2 =
          earlier ++
            [Action.navigate address known timestamp] := by
  have hVerdict :
      r.settings.interpret r.location
          ⟨.mutation address, timestamp⟩ =
        .record (Action.navigate address known timestamp) := by
    unfold Settings.interpret
    dsimp only
    rw [hKnows.location, if_neg hOther]
  have hFlush :
      Stays { r with location := some address }
        { r with location := some address }.flush.1 :=
    WaitsPlain.stays_flush hWaits
  have hAccepts :
      { r with location := some address }.flush.1.Accepts
        (Action.navigate address known timestamp) := by
    constructor
    · unfold isDeadNavigation
      rw [hFlush.lastNavigation]
      apply decide_eq_false
      intro hSame
      rcases hKnows.lastNavigation with hNone | hLast
      · rw [hNone] at hSame
        cases hSame
      · exact hOther (hLast.symm.trans hSame.symm)
    · rfl
  unfold react
  rw [hVerdict]
  dsimp only [observe]
  rw [recordInOrder_eq, record_of_accepts hAccepts]
  constructor
  · exact ⟨rfl, Or.inr rfl⟩
  · exact ⟨_, rfl⟩

/- An event without an address leads nowhere. -/
theorem Knows.react_of_address
    {event : Event}
    (hKnows : r.Knows known)
    (hWaits : r.WaitsPlain)
    (hAddress : event.occurrence.address? = none) :
    (r.react event).1.Knows known := by
  have hObserve : r.observe event = r := by
    unfold observe
    split
    · rename_i address hOccurrence
      rw [hOccurrence] at hAddress
      cases hAddress
    · rfl
  have hPlain :=
    isPlain_interpret r.settings r.location hAddress
  unfold react
  rw [hObserve]
  split
  · exact hKnows
  · exact ⟨hKnows.location, hKnows.lastNavigation⟩
  · rename_i action hVerdict
    rw [hVerdict] at hPlain
    have hNone : action.address? = none := by
      unfold Action.address?
      rw [if_neg (Bool.eq_false_iff.mp hPlain)]
    have hRecorded := hKnows.recordInOrder hWaits action
    rw [hNone, Option.none_or] at hRecorded
    exact hRecorded

theorem Knows.react
    (hKnows : r.Knows known)
    (hWaits : r.WaitsPlain)
    (event : Event) :
    (r.react event).1.Knows
      (event.occurrence.address?.or known) := by
  rcases event with ⟨occurrence, timestamp⟩
  cases occurrence with
  | mutation address =>
      by_cases hSame : known = some address
      · rw [react_mutation_of_known (hKnows.location.trans hSame)]
        rw [hSame] at hKnows
        exact hKnows
      · exact
          (hKnows.react_mutation hWaits hSame timestamp).1
  | unload address =>
      exact hKnows.recordInOrder hWaits
        (Action.navigate address none timestamp)
  | _ => exact hKnows.react_of_address hWaits rfl

------------------------------------------------------------
-- Runs
------------------------------------------------------------

/- A start makes its address known, whatever was before. -/
theorem knows_start
    (r : Recorder)
    (address : Option String)
    (now : Nat) :
    (r.execute (.start address now)).1.Knows address := by
  have hBegun : (r.begun address).Knows address :=
    ⟨rfl, Or.inl rfl⟩
  cases address with
  | none => exact hBegun
  | some url =>
      rw [execute_start_some]
      exact hBegun.record (Action.navigate url none now)

/- A recorder that records keeps track of its location. -/
theorem Knows.execute
    (hKnows : r.phase = .recording → r.Knows known)
    (hWaits : r.WaitsPlain)
    (command : Command)
    (hRecording :
      (r.execute command).1.phase = .recording) :
    (r.execute command).1.Knows (command.locates known) := by
  cases command with
  | start address now => exact r.knows_start address now
  | stop => cases hRecording
  | poll now =>
      have hStays := hWaits.stays_poll now
      have hPhase := (r.phase_poll now).symm.trans hRecording
      exact (hKnows hPhase).of_stays hStays
  | flush =>
      have hPhase : r.phase = .recording :=
        (keeps_settleAll { r with timers := r.timers.clear }
          r.timers.drain.2).phase.symm.trans hRecording
      exact (hKnows hPhase).of_stays hWaits.stays_flush
  | append action =>
      cases hPhase : r.phase with
      | idle =>
          rw [execute_append_of_idle hPhase, hPhase] at hRecording
          cases hRecording
      | recording =>
          rw [execute_append_of_recording hPhase]
          exact (hKnows hPhase).recordInOrder hWaits action
  | handle event =>
      cases hPhase : r.phase with
      | idle =>
          rw [execute_handle_of_idle hPhase] at hRecording
          rw [phase_poll, hPhase] at hRecording
          cases hRecording
      | recording =>
          have hPolled :=
            (hKnows hPhase).of_stays
              (hWaits.stays_poll event.timestamp)
          have hReacted :=
            hPolled.react (Waits.poll hWaits event.timestamp)
              event.normalise
          have hAddress :
              event.normalise.occurrence.address? =
                event.occurrence.address? :=
            event.occurrence.address?_mapTarget _
          rw [hAddress] at hReacted
          rw [execute_handle_of_recording hPhase]
          exact hReacted

theorem Knows.after
    {commands : List Command}
    (hKnows : r.phase = .recording → r.Knows known)
    (hWaits : r.WaitsPlain)
    (hRecording : (r.after commands).phase = .recording) :
    (r.after commands).Knows
      (commands.foldl Command.locates known) := by
  induction commands generalizing r known with
  | nil => exact hKnows hRecording
  | cons command commands ih =>
      have hNext :=
        Knows.execute hKnows hWaits command
      have hWaitsNext : (r.execute command).1.WaitsPlain :=
        Waits.execute hWaits
          (command.schedules_isPlain r.settings)
      exact ih hNext hWaitsNext hRecording

/- A mutation to the known address is no more than a poll. -/
theorem Knows.execute_mutation
    {address : String}
    (hKnows : r.Knows (some address))
    (hWaits : r.WaitsPlain)
    (hRecording : r.phase = .recording)
    (timestamp : Nat) :
    r.execute (.handle ⟨.mutation address, timestamp⟩) =
      r.execute (.poll timestamp) := by
  have hPolled := hKnows.of_stays (hWaits.stays_poll timestamp)
  have hReact :
      (r.poll timestamp).1.react
          (Event.normalise ⟨.mutation address, timestamp⟩) =
        ((r.poll timestamp).1, []) :=
    react_mutation_of_known hPolled.location
  rw [execute_handle_of_recording hRecording]
  dsimp only
  rw [hReact, List.append_nil]
  rfl

/- A mutation to another address ends with a navigation. -/
theorem Knows.recorded_mutation
    {address : String}
    (hKnows : r.Knows known)
    (hWaits : r.WaitsPlain)
    (hRecording : r.phase = .recording)
    (hOther : known ≠ some address)
    (timestamp : Nat) :
    ∃ earlier,
      r.recorded (.handle ⟨.mutation address, timestamp⟩) =
        earlier ++
          [Action.navigate address known timestamp] := by
  have hPolled := hKnows.of_stays (hWaits.stays_poll timestamp)
  rcases hPolled.react_mutation
      (Waits.poll hWaits timestamp) hOther timestamp with
    ⟨_, earlier, hReact⟩
  have hReact :
      ((r.poll timestamp).1.react
          (Event.normalise
            ⟨.mutation address, timestamp⟩)).2 =
        earlier ++
          [Action.navigate address known timestamp] :=
    hReact
  refine ⟨(r.poll timestamp).2 ++ earlier, ?_⟩
  unfold recorded
  rw [execute_handle_of_recording hRecording]
  dsimp only [Option.getD_some]
  rw [hReact, List.append_assoc]

/-
  Whatever a new recorder went through: if it records, then a
  mutation to the last known address settles what is due and
  lets the rest wait, and a mutation to any other address ends
  with a navigation there from the last known one.
-/
theorem execute_mutation_of_recording
    (settings : Settings)
    (commands : List Command)
    (address : String)
    (timestamp : Nat)
    (hRecording :
      ((new settings).after commands).phase = .recording) :
    (knownLocation commands = some address →
      ((new settings).after commands).execute
            (.handle ⟨.mutation address, timestamp⟩) =
          ((new settings).after commands).execute
            (.poll timestamp) ∧
        (((new settings).after commands).execute
            (.handle ⟨.mutation address, timestamp⟩)).1.timers =
          ((new settings).after commands).timers.later
            timestamp) ∧
    (knownLocation commands ≠ some address →
      ∃ earlier,
        ((new settings).after commands).recorded
            (.handle ⟨.mutation address, timestamp⟩) =
          earlier ++
            [{ kind := .navigate
               url := some address
               previousUrl :=
                 (knownLocation commands).filter
                   (fun previous => previous ≠ "")
               timestamp := timestamp }]) := by
  have hNew :
      (new settings).phase = .recording →
        (new settings).Knows none :=
    nofun
  have hWaits :
      ((new settings).after commands).WaitsPlain :=
    Waits.after (waits_new settings) fun command _ =>
      command.schedules_isPlain settings
  have hKnows :
      ((new settings).after commands).Knows
        (knownLocation commands) :=
    Knows.after hNew (waits_new settings) hRecording
  constructor
  · intro hSame
    rw [hSame] at hKnows
    rw [hKnows.execute_mutation hWaits hRecording timestamp]
    exact ⟨rfl, (keeps_settleAll _ _).timers⟩
  · intro hOther
    exact hKnows.recorded_mutation hWaits hRecording hOther
      timestamp

/-
  A page goes somewhere unknown and comes back to where it was
  before the last start; a pointer still waits.
-/
def wander : List Command :=
  [.start (some "/a") 0, .stop, .start none 10,
    .handle ⟨.mutation "/b", 20⟩,
    .append { kind := .navigate, timestamp := 30 },
    .handle ⟨.scroll none 0 500, 40⟩]

theorem execute_mutation_of_wander :
    ((new {}).after wander).phase = .recording ∧
      knownLocation wander = some "/b" ∧
      ((new {}).after wander).execute
            (.handle ⟨.mutation "/b", 50⟩) =
          ((new {}).after wander).execute (.poll 50) ∧
      ∃ earlier,
        ((new {}).after wander).recorded
            (.handle ⟨.mutation "/a", 50⟩) =
          earlier ++
            [{ kind := .navigate
               url := some "/a"
               previousUrl := some "/b"
               timestamp := 50 }] := by
  have hRecording :
      ((new {}).after wander).phase = .recording := by
    decide
  have hKnown : knownLocation wander = some "/b" := rfl
  have hSame :=
    execute_mutation_of_recording {} wander "/b" 50 hRecording
  have hOther :=
    execute_mutation_of_recording {} wander "/a" 50 hRecording
  exact ⟨hRecording, hKnown, (hSame.1 hKnown).1,
    hOther.2 (by decide)⟩

end Recorder

end Capture

end Clickstream
