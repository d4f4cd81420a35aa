import Clickstream.Proofs.Capture.Readings

/-
  The last candidate of a control: in a capture that ends with
  a flush, what comes up last on a control tells its last
  reading. What is read of boxes and lists comes up at once.
  What is typed waits, alone under the key of its field, and
  comes up before the run ends.

  Key definitions:
    * `Command.IsCapture`
    * `Reading.IsReadBy`
    * `Candidate.IsGenuine`, `Reading.Prevails`
    * `Recorder.WaitsUnder`, `Recorder.Fires`

  Key theorems:
    * `offers_isGenuine`
    * `Command.IsCapture.offers_prevails`
    * `Recorder.WaitsUnder.fires_stream`
    * `Recorder.exists_last_candidate`
-/

namespace Clickstream

namespace Capture

------------------------------------------------------------
-- Captures
------------------------------------------------------------

/- Whether a command takes events or lets time pass. -/
def Command.IsCapture : Command → Prop
  | handle _ => True
  | poll _ => True
  | flush => True
  | _ => False

theorem Command.IsCapture.isOngoing
    {command : Command}
    (hCapture : command.IsCapture) :
    command.IsOngoing := by
  cases command <;> trivial

/- Whether one of these commands reads a reading. -/
def Reading.IsReadBy
    (reading : Reading)
    (commands : List Command) : Prop :=
  ∃ command ∈ commands, command.reading? = some reading

/-
  Whether a candidate tells a reading of one of these commands
  and waited for it as it should, or tells none.
-/
inductive Candidate.IsGenuine
    (commands : List Command) : Candidate → Prop where
  | told
      {reading : Reading}
      {action : Action}
      (hRead : reading.IsReadBy commands)
      (hTold : reading.IsToldBy action) :
      IsGenuine commands ⟨reading.control.timer?, action⟩
  | silent
      {candidate : Candidate}
      (hSilent : candidate.IsSilent) :
      IsGenuine commands candidate

variable {settings : Settings}
variable {control : Control}
variable {reading : Reading}
variable {candidate : Candidate}
variable {command : Command}
variable {commands all : List Command}
variable {action : Action}

/- Silence says nothing about any control. -/
theorem Candidate.IsSilent.not_isOn
    (hSilent : candidate.IsSilent)
    (control : Control) :
    ¬ candidate.action.IsOn control := by
  intro hOn
  apply hSilent.kind
  rw [hOn.kind]
  exact control.kind.actionKind_mem

theorem Verdict.Offers.mono
    {P Q : Candidate → Prop}
    {v : Verdict}
    (hOffers : v.Offers P)
    (hImp : ∀ candidate, P candidate → Q candidate) :
    v.Offers Q := by
  cases v with
  | ignore => trivial
  | record action => exact hImp _ hOffers
  | settle key deadline action => exact hImp _ hOffers

theorem Reading.offers_verdict
    {P : Candidate → Prop}
    (hOffer : P ⟨reading.control.timer?, action⟩) :
    (reading.verdict settings action).Offers P := by
  unfold Reading.verdict
  split
  · rename_i key hTimer
    rw [hTimer] at hOffer
    exact hOffer
  · rename_i hTimer
    rw [hTimer] at hOffer
    exact hOffer

/- All that comes up during a capture is genuine. -/
theorem offers_isGenuine
    (settings : Settings)
    (hCapture : ∀ command ∈ commands, command.IsCapture) :
    ∀ command ∈ commands,
      command.Offers settings
        (Candidate.IsGenuine commands) := by
  intro command hCommand
  cases command with
  | handle event =>
      intro location
      cases hReading : event.normalise.reading? with
      | none =>
          have hSilent :=
            offers_isSilent_interpret settings location hReading
          exact hSilent.mono fun _ => .silent
      | some reading =>
          rcases exists_interpret_eq_verdict settings location
              hReading with ⟨draft, hTold, hVerdict⟩
          have hRead : reading.IsReadBy commands :=
            ⟨_, hCommand, hReading⟩
          rw [hVerdict]
          exact Reading.offers_verdict (.told hRead hTold)
  | poll now => trivial
  | flush => trivial
  | _ => exact (hCapture _ hCommand).elim

/- A flush offers nothing of its own. -/
theorem offers_append_flush
    {P : Candidate → Prop}
    (hOffers :
      ∀ command ∈ commands, command.Offers settings P) :
    ∀ command ∈ commands ++ [Command.flush],
      command.Offers settings P := by
  intro command hCommand
  rcases List.mem_append.mp hCommand with hMem | hFlush
  · exact hOffers command hMem
  · rw [List.mem_singleton.mp hFlush]
    trivial

/-
  Whether a candidate leaves a reading the last one of its
  control: if it is about the control it tells that reading.
-/
def Reading.Prevails
    (reading : Reading)
    (candidate : Candidate) : Prop :=
  candidate.action.IsOn reading.control →
    reading.IsToldBy candidate.action

/- A reading prevails until its control is read again. -/
theorem Command.IsCapture.offers_prevails
    (settings : Settings)
    (hCapture : command.IsCapture)
    (hOther :
      ∀ other,
        command.reading? = some other →
          other.control ≠ reading.control) :
    command.Offers settings reading.Prevails := by
  cases command with
  | handle event =>
      intro location
      cases hReading : event.normalise.reading? with
      | none =>
          have hSilent :=
            offers_isSilent_interpret settings location hReading
          exact hSilent.mono fun _ hSilent hOn =>
            absurd hOn (hSilent.not_isOn _)
      | some other =>
          rcases exists_interpret_eq_verdict settings location
              hReading with ⟨draft, hTold, hVerdict⟩
          rw [hVerdict]
          apply Reading.offers_verdict
          intro hOn
          exact absurd (hTold.isOn.unique hOn)
            (hOther other hReading)
  | poll now => trivial
  | flush => trivial
  | _ => exact hCapture.elim

theorem Control.timer?_eq_some_iff
    {key : TimerKey} :
    control.timer? = some key ↔
      control.kind = .entry ∧ key = .typing control.field := by
  unfold Control.timer?
  cases control.kind with
  | entry => simp [eq_comm]
  | box => simp
  | choice => simp

/- The last of some items that are of a kind. -/
theorem exists_last_of_mem
    {α : Type}
    {P : α → Prop}
    {items : List α}
    (hItem : ∃ item ∈ items, P item) :
    ∃ first last rest,
      items = first ++ last :: rest ∧ P last ∧
        ∀ other ∈ rest, ¬ P other := by
  induction items with
  | nil =>
      rcases hItem with ⟨_, hNone, _⟩
      cases hNone
  | cons item items ih =>
      by_cases hLater : ∃ other ∈ items, P other
      · rcases ih hLater with
          ⟨first, last, rest, rfl, hLast, hRest⟩
        exact ⟨item :: first, last, rest, rfl, hLast, hRest⟩
      · rcases hItem with ⟨other, hOther, hP⟩
        rcases List.mem_cons.mp hOther with rfl | hMem
        · exact ⟨[], other, items, rfl, hP,
            fun later h hLaterP => hLater ⟨later, h, hLaterP⟩⟩
        · exact absurd ⟨other, hMem, hP⟩ hLater

------------------------------------------------------------
-- Waiting for a Flush
------------------------------------------------------------

namespace Recorder

variable {r : Recorder}
variable {key : TimerKey}

/- Whether something waits under a key. -/
def WaitsUnder (key : TimerKey) (r : Recorder) : Prop :=
  ∃ p ∈ r.timers.pending, p.key = key

/- Whether one of these candidates waited under a key. -/
def Fires
    (key : TimerKey)
    (candidates : List Candidate) : Prop :=
  ∃ candidate ∈ candidates, candidate.waited = some key

theorem Fires.append_left
    {first second : List Candidate}
    (hFires : Fires key first) :
    Fires key (first ++ second) := by
  rcases hFires with ⟨candidate, hCandidate, hWaited⟩
  exact ⟨candidate, List.mem_append_left _ hCandidate,
    hWaited⟩

theorem Fires.append_right
    {first second : List Candidate}
    (hFires : Fires key second) :
    Fires key (first ++ second) := by
  rcases hFires with ⟨candidate, hCandidate, hWaited⟩
  exact ⟨candidate, List.mem_append_right _ hCandidate,
    hWaited⟩

theorem WaitsUnder.of_keeps
    {s : Recorder}
    (hUnder : r.WaitsUnder key)
    (hKeeps : Keeps r s) :
    s.WaitsUnder key := by
  unfold WaitsUnder
  rw [hKeeps.timers]
  exact hUnder

/- What waits fires at a poll, or waits on. -/
theorem WaitsUnder.poll
    (hUnder : r.WaitsUnder key)
    (now : Nat) :
    Fires key
        ((r.timers.takeDue now).2.map Candidate.ofEntry) ∨
      (r.poll now).1.WaitsUnder key := by
  rcases hUnder with ⟨p, hp, rfl⟩
  have hPerm := r.timers.perm_due_append_later now
  rcases List.mem_append.mp (hPerm.symm.subset hp) with
    hDue | hLater
  · left
    exact ⟨Candidate.ofEntry p.entry,
      List.mem_map_of_mem (List.mem_map_of_mem hDue), rfl⟩
  · right
    have hUnder :
        WaitsUnder p.key
          { r with timers := r.timers.later now } :=
      ⟨p, hLater, rfl⟩
    exact hUnder.of_keeps (keeps_settleAll _ _)

/- What waits fires at a flush. -/
theorem WaitsUnder.fires_drain
    (hUnder : r.WaitsUnder key) :
    Fires key (r.timers.drain.2.map Candidate.ofEntry) := by
  rcases hUnder with ⟨p, hp, rfl⟩
  have hDrawn := Timers.mem_drawn_iff.mpr hp
  rw [r.timers.drain_eq_drawn]
  exact ⟨Candidate.ofEntry p.entry,
    List.mem_map_of_mem (List.mem_map_of_mem hDrawn), rfl⟩

/- What waits gives way only to what waits in its place. -/
theorem WaitsUnder.react
    (hUnder : r.WaitsUnder key)
    (event : Event) :
    Fires key (r.reactions event) ∨
      (r.react event).1.WaitsUnder key := by
  unfold reactions Recorder.react
  cases r.settings.interpret r.location event with
  | ignore => exact Or.inr hUnder
  | record action =>
      exact Or.inl hUnder.fires_drain.append_left
  | settle other deadline action =>
      right
      rcases hUnder with ⟨p, hp, rfl⟩
      by_cases hSame : p.key = other
      · exact ⟨_, List.mem_append_right _
          (List.mem_singleton_self _), hSame.symm⟩
      · refine ⟨p, List.mem_append_left _ ?_, rfl⟩
        exact List.mem_filter.mpr
          ⟨hp, by simpa using hSame⟩

theorem WaitsUnder.execute
    (hUnder : r.WaitsUnder key)
    (hCapture : command.IsCapture) :
    Fires key (r.candidates command) ∨
      (r.execute command).1.WaitsUnder key := by
  cases command with
  | poll now => exact hUnder.poll now
  | flush => exact Or.inl hUnder.fires_drain
  | handle event =>
      unfold candidates
      rcases hUnder.poll event.timestamp with hDue | hUnder
      · exact Or.inl hDue.append_left
      cases hPhase : r.phase with
      | idle =>
          rw [execute_handle_of_idle hPhase]
          exact Or.inr hUnder
      | recording =>
          rw [execute_handle_of_recording hPhase]
          rcases hUnder.react event.normalise with
            hFires | hUnder
          · exact Or.inl hFires.append_right
          · exact Or.inr hUnder
  | _ => exact hCapture.elim

/-
  What waits comes up in the end, if the run ends with a flush
  and only captures until then.
-/
theorem WaitsUnder.fires_stream
    (hUnder : r.WaitsUnder key)
    (hCapture : ∀ command ∈ commands, command.IsCapture) :
    Fires key (r.stream (commands ++ [.flush])) := by
  induction commands generalizing r with
  | nil => exact hUnder.fires_drain.append_left
  | cons command commands ih =>
      have hNow := hCapture command List.mem_cons_self
      rcases hUnder.execute hNow with hFires | hUnder
      · exact hFires.append_left
      · have hRest := ih hUnder fun other hOther =>
          hCapture other (List.mem_cons_of_mem _ hOther)
        exact hRest.append_right

------------------------------------------------------------
-- The Last Candidate
------------------------------------------------------------

/- What is scheduled waits alone under its key. -/
theorem waitsAs_schedule
    {P Q : Candidate → Prop}
    {deadline : Nat}
    (hWaits : r.WaitsAs P)
    (hOld :
      ∀ candidate,
        P candidate → candidate.waited ≠ some key →
          Q candidate)
    (hNew : Q ⟨some key, action⟩) :
    WaitsAs Q
      { r with
        timers := r.timers.schedule key deadline action } := by
  intro p hp
  rcases List.mem_append.mp hp with hKept | hMade
  · rcases List.mem_filter.mp hKept with ⟨hOldMem, hOther⟩
    apply hOld _ (hWaits p hOldMem)
    simpa using hOther
  · rw [List.mem_singleton.mp hMade]
    exact hNew

/- A genuine candidate waits where its control does. -/
theorem timer?_of_isOn
    (hGenuine : candidate.IsGenuine all)
    (hOn : candidate.action.IsOn control) :
    control.timer? = candidate.waited := by
  cases hGenuine with
  | told hRead hTold =>
      exact congrArg Control.timer? (hOn.unique hTold.isOn)
  | silent hSilent => exact absurd hOn (hSilent.not_isOn _)

/- What waited where a reading does tells that reading. -/
theorem isToldBy_of_waited
    (hGenuine : candidate.IsGenuine all)
    (hPrevails : reading.Prevails candidate)
    (hTimer : reading.control.timer? = some key)
    (hWaited : candidate.waited = some key) :
    reading.IsToldBy candidate.action := by
  have hEntry := Control.timer?_eq_some_iff.mp hTimer
  cases hGenuine with
  | @told other action hRead hTold =>
      have hOther := Control.timer?_eq_some_iff.mp hWaited
      have hField :=
        TimerKey.typing.inj (hOther.2.symm.trans hEntry.2)
      have hSame : other.control = reading.control :=
        Control.ext hField (hOther.1.trans hEntry.1.symm)
      apply hPrevails
      rw [← hSame]
      exact hTold.isOn
  | silent hSilent =>
      rw [hEntry.2] at hWaited
      exact absurd hWaited (hSilent.waited _)

/-
  An event that reads a control brings it up at once, or lets
  it wait; whatever else was about the control is settled
  before or forgotten.
-/
theorem exists_candidates_handle
    {event : Event}
    (hPhase : r.phase = .recording)
    (hWaits : r.WaitsAs (Candidate.IsGenuine all))
    (hReading : event.normalise.reading? = some reading) :
    ∃ early late,
      r.candidates (.handle event) = early ++ late ∧
        (∀ candidate ∈ late, reading.Prevails candidate) ∧
        (r.execute (.handle event)).1.WaitsAs
          reading.Prevails ∧
        ((∃ candidate ∈ late,
            reading.IsToldBy candidate.action) ∨
          ∃ key,
            reading.control.timer? = some key ∧
              (r.execute (.handle event)).1.WaitsUnder key) := by
  have hPoll :
      (r.poll event.timestamp).1.WaitsAs
        (Candidate.IsGenuine all) :=
    Waits.poll hWaits event.timestamp
  rcases exists_interpret_eq_verdict
      (r.poll event.timestamp).1.settings
      (r.poll event.timestamp).1.location hReading with
    ⟨draft, hTold, hVerdict⟩
  rw [execute_handle_of_recording hPhase,
    candidates_handle_of_recording hPhase]
  unfold reactions react
  rw [hVerdict]
  unfold Reading.verdict
  cases hTimer : reading.control.timer? with
  | none =>
      refine ⟨_, [⟨none, draft⟩],
        (List.append_assoc _ _ _).symm, ?_, ?_, Or.inl ?_⟩
      · intro candidate hCandidate _
        rw [List.mem_singleton.mp hCandidate]
        exact hTold
      · exact waits_of_pending_eq_nil
          (pending_recordInOrder _ _)
      · exact ⟨_, List.mem_singleton_self _, hTold⟩
  | some key =>
      refine ⟨_, [], rfl, by simp, ?_, Or.inr ⟨key, rfl, ?_⟩⟩
      · apply waitsAs_schedule hPoll
        · intro candidate hGenuine hOther
          rw [← hTimer] at hOther
          exact fun hOn =>
            absurd (timer?_of_isOn hGenuine hOn).symm hOther
        · exact fun _ => hTold
      · exact ⟨_, List.mem_append_right _
          (List.mem_singleton_self _), rfl⟩

/- A reading prevails while its control is not read again. -/
theorem prevails_stream
    (hWaits : r.WaitsAs reading.Prevails)
    (hCapture : ∀ command ∈ commands, command.IsCapture)
    (hOther :
      ∀ command ∈ commands, ∀ other,
        command.reading? = some other →
          other.control ≠ reading.control) :
    ∀ candidate ∈ r.stream (commands ++ [.flush]),
      reading.Prevails candidate := by
  apply hWaits.forall_mem_stream
  apply offers_append_flush
  intro command hCommand
  exact (hCapture command hCommand).offers_prevails _
    (hOther command hCommand)

/- A reading that waits is told when it comes up. -/
theorem exists_isToldBy_of_waitsUnder
    (hUnder : r.WaitsUnder key)
    (hTimer : reading.control.timer? = some key)
    (hCapture : ∀ command ∈ commands, command.IsCapture)
    (hGenuine :
      ∀ candidate ∈ r.stream (commands ++ [.flush]),
        candidate.IsGenuine all)
    (hPrevails :
      ∀ candidate ∈ r.stream (commands ++ [.flush]),
        reading.Prevails candidate) :
    ∃ candidate ∈ r.stream (commands ++ [.flush]),
      reading.IsToldBy candidate.action := by
  rcases hUnder.fires_stream hCapture with
    ⟨candidate, hCandidate, hWaited⟩
  exact ⟨candidate, hCandidate,
    isToldBy_of_waited (hGenuine candidate hCandidate)
      (hPrevails candidate hCandidate) hTimer hWaited⟩

/-
  The last candidate on a control tells its last reading. The
  stream is split at the event of that reading; from there on
  nothing else comes up on the control.
-/
theorem exists_last_candidate
    (hPhase : r.phase = .recording)
    (hWaits : r.WaitsAs (Candidate.IsGenuine commands))
    (hCapture : ∀ command ∈ commands, command.IsCapture)
    (hReading : lastReading? control commands = some reading) :
    ∃ first candidate rest,
      r.stream (commands ++ [.flush]) =
          first ++ candidate :: rest ∧
        reading.IsToldBy candidate.action ∧
        ∀ other ∈ rest, ¬ other.action.IsOn control := by
  have hOffers := fun settings =>
    offers_isGenuine settings hCapture
  rcases exists_of_lastReading?_eq_some hReading with
    ⟨before, event, rest, rfl, hEvent, rfl, hLater⟩
  have hEventMem :
      Command.handle event ∈ before ++ .handle event :: rest :=
    List.mem_append_right _ List.mem_cons_self
  have hBeforeMem :
      ∀ command ∈ before,
        command ∈ before ++ .handle event :: rest :=
    fun command hCommand => List.mem_append_left _ hCommand
  have hRestMem :
      ∀ command ∈ rest,
        command ∈ before ++ .handle event :: rest :=
    fun command hCommand =>
      List.mem_append_right _ (List.mem_cons_of_mem _ hCommand)
  have hRest : ∀ command ∈ rest, command.IsCapture :=
    fun command hCommand =>
      hCapture command (hRestMem command hCommand)
  have hMid :=
    hWaits.after fun command hCommand =>
      hOffers _ command (hBeforeMem command hCommand)
  have hMidPhase : (r.after before).phase = .recording := by
    rw [phase_after fun command hCommand =>
      (hCapture command (hBeforeMem command hCommand)).isOngoing]
    exact hPhase
  rcases exists_candidates_handle hMidPhase hMid hEvent with
    ⟨early, late, hCandidates, hLate, hNext, hTold⟩
  have hThen := prevails_stream hNext hRest hLater
  -- The stream from the event of the reading on.
  let onwards :=
    late ++
      ((r.after before).execute (.handle event)).1.stream
        (rest ++ [.flush])
  have hStream :
      r.stream ((before ++ .handle event :: rest) ++ [.flush]) =
        (r.stream before ++ early) ++ onwards := by
    rw [List.append_assoc, stream_append, List.cons_append,
      stream, hCandidates]
    simp only [onwards, List.append_assoc]
  have hPrevails :
      ∀ candidate ∈ onwards, reading.Prevails candidate := by
    intro candidate hCandidate
    rcases List.mem_append.mp hCandidate with hMem | hMem
    · exact hLate candidate hMem
    · exact hThen candidate hMem
  have hSome :
      ∃ candidate ∈ onwards,
        candidate.action.IsOn reading.control := by
    rcases hTold with
      ⟨candidate, hMem, hTold⟩ | ⟨key, hTimer, hUnder⟩
    · exact ⟨candidate, List.mem_append_left _ hMem,
        hTold.isOn⟩
    · have hEnd := hMid.execute (hOffers _ _ hEventMem)
      have hGenuine :=
        hEnd.forall_mem_stream
          (offers_append_flush fun command hCommand =>
            hOffers _ command (hRestMem command hCommand))
      rcases exists_isToldBy_of_waitsUnder hUnder hTimer hRest
          hGenuine hThen with ⟨candidate, hMem, hTold⟩
      exact ⟨candidate, List.mem_append_right _ hMem,
        hTold.isOn⟩
  rcases exists_last_of_mem hSome with
    ⟨first, candidate, last, hSplit, hOn, hNone⟩
  refine ⟨(r.stream before ++ early) ++ first, candidate, last,
    ?_, ?_, hNone⟩
  · rw [hStream, hSplit, List.append_assoc _ first]
  · apply hPrevails candidate ?_ hOn
    rw [hSplit]
    exact List.mem_append_right _ List.mem_cons_self

end Recorder

end Capture

end Clickstream
