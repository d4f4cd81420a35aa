import Clickstream.Capture.Recorder
import Clickstream.Proofs.Capture.Timers

/-
  Runs of a recorder: any operations in any order, and what
  they show to the outside. Every action that is shown is the
  sanitised form of one that waited, that an event stands for,
  or that was made elsewhere.

  Key definitions:
    * `Command`, `Recorder.execute`
    * `Answer`, `Recorder.after`, `Recorder.answers`
    * `Recorder.history`
    * `Recorder.Waits`: what holds of all that waits
    * `Recorder.Source`: where a shown action comes from

  Key theorems:
    * `Recorder.settings_after`
    * `Recorder.Waits.execute`
    * `Recorder.source_of_mem_recorded`
    * `Recorder.mem_answers_iff`
-/

namespace Clickstream

namespace Capture

------------------------------------------------------------
-- Commands and Answers
------------------------------------------------------------

/- The operations of a recorder. -/
inductive Command where
  | start (address : Option String) (now : Nat)
  | stop
  | handle (event : Event)
  | append (action : Action)
  | poll (now : Nat)
  | flush

/-
  What an operation shows: the actions it recorded, unless it
  was refused, and the state it left as far as can be seen.
-/
structure Answer where
  recorded : Option (List Action)
  phase : Phase
  waiting : Nat
  deadline : Option Nat
deriving DecidableEq

/-
  Whether all that a command lets wait is of a kind, under
  these settings. Only events let actions wait.
-/
def Command.Schedules
    (settings : Settings)
    (P : TimerKey → Action → Prop) : Command → Prop
  | handle event =>
      ∀ location key deadline action,
        settings.interpret location event.normalise =
          .settle key deadline action → P key action
  | _ => True

namespace Recorder

/- Carry out a command. -/
def execute
    (r : Recorder) :
    Command → Recorder × Option (List Action)
  | .start address now =>
      ((r.start address now).1, (r.start address now).2)
  | .stop => (r.stop, some [])
  | .handle event => ((r.handle event).1, (r.handle event).2)
  | .append action =>
      match r.append? action with
      | some (next, recorded) => (next, recorded)
      | none => (r, none)
  | .poll now => ((r.poll now).1, (r.poll now).2)
  | .flush => (r.flush.1, r.flush.2)

/- The actions that a command records. -/
def recorded
    (r : Recorder)
    (command : Command) : List Action :=
  (r.execute command).2.getD []

/- What a command shows. -/
def answer
    (r : Recorder)
    (command : Command) : Answer where
  recorded := (r.execute command).2
  phase := (r.execute command).1.phase
  waiting := (r.execute command).1.timers.size
  deadline := (r.execute command).1.timers.nextDeadline?

/- The recorder after commands. -/
def after (r : Recorder) : List Command → Recorder
  | [] => r
  | command :: rest => (r.execute command).1.after rest

/- The actions that commands record, one after the other. -/
def history (r : Recorder) : List Command → List Action
  | [] => []
  | command :: rest =>
      r.recorded command ++ (r.execute command).1.history rest

/- What commands show, one after the other. -/
def answers (r : Recorder) : List Command → List Answer
  | [] => []
  | command :: rest =>
      r.answer command :: (r.execute command).1.answers rest

------------------------------------------------------------
-- Recording
------------------------------------------------------------

/- Whether an action goes through the checks. -/
def Accepts (r : Recorder) (action : Action) : Prop :=
  r.isDeadNavigation action = false ∧
    r.isDuplicate action = false

instance (r : Recorder) (action : Action) :
    Decidable (r.Accepts action) :=
  inferInstanceAs (Decidable (_ ∧ _))

variable {r s : Recorder}
variable {action seen : Action}

/- An accepted action is recorded in sanitised form. -/
theorem record_of_accepts
    (hAccepts : r.Accepts action) :
    r.record action =
      ({ r.follow action with
          lastRecorded := some (r.settings.sanitise action) },
        some (r.settings.sanitise action)) := by
  unfold record
  rw [hAccepts.1, hAccepts.2]
  rfl

/- Any other action leaves the recorder as it is. -/
theorem record_of_not_accepts
    (hAccepts : ¬ r.Accepts action) :
    r.record action = (r, none) := by
  have hRejected :
      (r.isDeadNavigation action || r.isDuplicate action) =
        true := by
    cases hDead : r.isDeadNavigation action with
    | true => rfl
    | false =>
        cases hDuplicate : r.isDuplicate action with
        | true => rfl
        | false => exact absurd ⟨hDead, hDuplicate⟩ hAccepts
  unfold record
  rw [if_pos hRejected]

/- What is recorded is the action, fit to be seen. -/
theorem eq_sanitise_of_record
    (hSeen : (r.record action).2 = some seen) :
    seen = r.settings.sanitise action := by
  by_cases hAccepts : r.Accepts action
  · rw [record_of_accepts hAccepts] at hSeen
    exact (Option.some.inj hSeen).symm
  · rw [record_of_not_accepts hAccepts] at hSeen
    cases hSeen

/-
  Whether a waiting action tells anything new: a text that
  the field did not hold, a scroll that went far enough.
-/
def IsNews (r : Recorder) : TimerKey → Action → Prop
  | .typing field, action =>
      r.lastValue? field ≠ some (action.valueText?.getD "")
  | .hover, _ => True
  | .scroll, action =>
      r.settings.scrollThreshold <
        scrollDistance r.lastScroll action.position

/- What the recorder remembers of a settled action. -/
def remember (r : Recorder) : TimerKey → Action → Recorder
  | .typing field, action =>
      r.rememberValue field (action.valueText?.getD "")
  | .hover, _ => r
  | .scroll, action =>
      { r with lastScroll := action.position }

/- Whether a waiting action is recorded when it settles. -/
structure Settles
    (r : Recorder)
    (key : TimerKey)
    (action : Action) : Prop where
  phase : r.phase = .recording
  isNews : r.IsNews key action
  accepts : r.Accepts action

/- An action that settles is recorded and remembered. -/
theorem settle_of_settles
    {key : TimerKey}
    (hSettles : r.Settles key action) :
    r.settle key action =
      ((r.record action).1.remember key action,
        some (r.settings.sanitise action)) := by
  rcases hSettles with ⟨hPhase, hNews, hAccepts⟩
  have hRecord := record_of_accepts hAccepts
  unfold settle
  rw [hPhase]
  cases key with
  | hover =>
      dsimp only [remember]
      rw [hRecord]
  | typing field =>
      dsimp only [settleTyping, remember]
      rw [if_neg hNews, hRecord]
  | scroll =>
      dsimp only [settleScroll, remember]
      rw [if_neg (Int.not_le.mpr hNews), hRecord]

/- Any other action leaves the recorder as it is. -/
theorem settle_of_not_settles
    {key : TimerKey}
    (hSettles : ¬ r.Settles key action) :
    r.settle key action = (r, none) := by
  unfold settle
  cases hPhase : r.phase with
  | idle => rfl
  | recording =>
      have hRecord :
          r.IsNews key action →
            r.record action = (r, none) := by
        intro hNews
        apply record_of_not_accepts
        intro hAccepts
        exact hSettles ⟨hPhase, hNews, hAccepts⟩
      cases key with
      | hover => exact hRecord trivial
      | typing field =>
          dsimp only [settleTyping]
          split
          · rfl
          · rename_i hNews
            rw [hRecord hNews]
      | scroll =>
          dsimp only [settleScroll]
          split
          · rfl
          · rename_i hFar
            rw [hRecord (Int.not_le.mp hFar)]

/-
  What recording one action after the other leaves alone: the
  settings, the phase, and what waits.
-/
structure Keeps (r s : Recorder) : Prop where
  settings : s.settings = r.settings
  phase : s.phase = r.phase
  timers : s.timers = r.timers

theorem Keeps.rfl : Keeps r r :=
  ⟨Eq.refl _, Eq.refl _, Eq.refl _⟩

theorem Keeps.trans
    {q : Recorder}
    (hFirst : Keeps q r)
    (hSecond : Keeps r s) :
    Keeps q s where
  settings := hSecond.settings.trans hFirst.settings
  phase := hSecond.phase.trans hFirst.phase
  timers := hSecond.timers.trans hFirst.timers

theorem keeps_record (r : Recorder) (action : Action) :
    Keeps r (r.record action).1 := by
  by_cases hAccepts : r.Accepts action
  · rw [record_of_accepts hAccepts]
    unfold follow
    split <;> exact ⟨rfl, rfl, rfl⟩
  · rw [record_of_not_accepts hAccepts]
    exact Keeps.rfl

theorem keeps_remember
    (r : Recorder)
    (key : TimerKey)
    (action : Action) :
    Keeps r (r.remember key action) := by
  cases key <;> exact ⟨rfl, rfl, rfl⟩

theorem keeps_settle
    (r : Recorder)
    (key : TimerKey)
    (action : Action) :
    Keeps r (r.settle key action).1 := by
  by_cases hSettles : r.Settles key action
  · rw [settle_of_settles hSettles]
    exact (r.keeps_record action).trans
      (keeps_remember _ key action)
  · rw [settle_of_not_settles hSettles]
    exact Keeps.rfl

/- A settled action is recorded or nothing is. -/
theorem eq_sanitise_of_settle
    {key : TimerKey}
    (hSeen : (r.settle key action).2 = some seen) :
    seen = r.settings.sanitise action := by
  by_cases hSettles : r.Settles key action
  · rw [settle_of_settles hSettles] at hSeen
    exact (Option.some.inj hSeen).symm
  · rw [settle_of_not_settles hSettles] at hSeen
    cases hSeen

theorem settleAll_cons
    (r : Recorder)
    (key : TimerKey)
    (action : Action)
    (rest : List (TimerKey × Action)) :
    r.settleAll ((key, action) :: rest) =
      (((r.settle key action).1.settleAll rest).1,
        (r.settle key action).2.toList ++
          ((r.settle key action).1.settleAll rest).2) :=
  rfl

theorem keeps_settleAll
    (r : Recorder)
    (entries : List (TimerKey × Action)) :
    Keeps r (r.settleAll entries).1 := by
  induction entries generalizing r with
  | nil => exact Keeps.rfl
  | cons entry entries ih =>
      rw [settleAll_cons]
      exact (r.keeps_settle entry.1 entry.2).trans (ih _)

/- All that is recorded of waiting actions had waited. -/
theorem exists_of_mem_settleAll
    {entries : List (TimerKey × Action)}
    (hSeen : seen ∈ (r.settleAll entries).2) :
    ∃ entry ∈ entries,
      seen = r.settings.sanitise entry.2 := by
  induction entries generalizing r with
  | nil => cases hSeen
  | cons entry entries ih =>
      rw [settleAll_cons] at hSeen
      rcases List.mem_append.mp hSeen with hFirst | hOthers
      · have hSettle :=
          eq_sanitise_of_settle (Option.mem_toList.mp hFirst)
        exact ⟨entry, List.mem_cons_self, hSettle⟩
      · rcases ih hOthers with ⟨other, hOther, hSame⟩
        have hKeeps := r.keeps_settle entry.1 entry.2
        rw [hKeeps.settings] at hSame
        exact ⟨other, List.mem_cons_of_mem _ hOther, hSame⟩

------------------------------------------------------------
-- Operations
------------------------------------------------------------

theorem keeps_observe (r : Recorder) (event : Event) :
    Keeps r (r.observe event) := by
  unfold observe
  split <;> exact ⟨rfl, rfl, rfl⟩

/- Polling is settling what is due. -/
theorem poll_eq (r : Recorder) (now : Nat) :
    r.poll now =
      { r with timers := r.timers.later now }.settleAll
        (r.timers.takeDue now).2 :=
  rfl

/- Flushing is settling everything. -/
theorem flush_eq (r : Recorder) :
    r.flush =
      { r with timers := r.timers.clear }.settleAll
        r.timers.drain.2 :=
  rfl

/- Nothing waits behind a flush. -/
theorem pending_flush (r : Recorder) :
    r.flush.1.timers.pending = [] := by
  rw [flush_eq, (keeps_settleAll _ _).timers]
  rfl

theorem recordInOrder_eq (r : Recorder) (action : Action) :
    r.recordInOrder action =
      ((r.flush.1.record action).1,
        r.flush.2 ++
          (r.flush.1.record action).2.toList) :=
  rfl

/- Nothing waits behind an action that need not wait. -/
theorem pending_recordInOrder
    (r : Recorder)
    (action : Action) :
    (r.recordInOrder action).1.timers.pending = [] := by
  rw [recordInOrder_eq, (keeps_record _ _).timers]
  exact r.pending_flush

/- A recorder that has just begun to record. -/
def begun
    (r : Recorder)
    (address : Option String) : Recorder where
  settings := r.settings
  phase := .recording
  location := address
  timers := r.timers.clear

theorem execute_start_some
    (r : Recorder)
    (url : String)
    (now : Nat) :
    r.execute (.start (some url) now) =
      (((r.begun (some url)).record
          (Action.navigate url none now)).1,
        some ((r.begun (some url)).record
          (Action.navigate url none now)).2.toList) :=
  rfl

theorem execute_append_of_idle
    (hPhase : r.phase = .idle)
    (action : Action) :
    r.execute (.append action) = (r, none) := by
  unfold execute append?
  rw [hPhase]

theorem execute_append_of_recording
    (hPhase : r.phase = .recording)
    (action : Action) :
    r.execute (.append action) =
      ((r.recordInOrder action).1,
        some (r.recordInOrder action).2) := by
  unfold execute append?
  rw [hPhase]

theorem phase_poll (r : Recorder) (now : Nat) :
    (r.poll now).1.phase = r.phase :=
  (keeps_settleAll _ _).phase

/- An idle recorder only polls when it is given an event. -/
theorem execute_handle_of_idle
    (hPhase : r.phase = .idle)
    (event : Event) :
    r.execute (.handle event) =
      ((r.poll event.timestamp).1,
        some (r.poll event.timestamp).2) := by
  have hPoll := r.phase_poll event.timestamp
  rw [hPhase] at hPoll
  unfold execute handle
  simp only [hPoll]

/- A recorder that records reacts to the event as well. -/
theorem execute_handle_of_recording
    (hPhase : r.phase = .recording)
    (event : Event) :
    r.execute (.handle event) =
      (((r.poll event.timestamp).1.react
          event.normalise).1,
        some ((r.poll event.timestamp).2 ++
          ((r.poll event.timestamp).1.react
            event.normalise).2)) := by
  have hPoll := r.phase_poll event.timestamp
  rw [hPhase] at hPoll
  unfold execute handle
  simp only [hPoll]

theorem settings_poll (r : Recorder) (now : Nat) :
    (r.poll now).1.settings = r.settings :=
  (keeps_settleAll _ _).settings

theorem settings_flush (r : Recorder) :
    r.flush.1.settings = r.settings :=
  (keeps_settleAll _ _).settings

theorem settings_recordInOrder
    (r : Recorder)
    (action : Action) :
    (r.recordInOrder action).1.settings = r.settings :=
  (keeps_record _ _).settings.trans
    (keeps_settleAll _ _).settings

theorem settings_react (r : Recorder) (event : Event) :
    (r.react event).1.settings = r.settings := by
  unfold react
  split
  · rfl
  · rfl
  · rename_i action hVerdict
    exact (settings_recordInOrder _ action).trans
      (r.keeps_observe event).settings

/- No operation changes the settings. -/
theorem settings_execute (r : Recorder) (command : Command) :
    (r.execute command).1.settings = r.settings := by
  cases command with
  | start address now =>
      cases address with
      | none => rfl
      | some url =>
          rw [execute_start_some]
          exact (keeps_record _ _).settings
  | stop => rfl
  | poll now => exact r.settings_poll now
  | flush => exact r.settings_flush
  | append action =>
      cases hPhase : r.phase with
      | idle => rw [execute_append_of_idle hPhase]
      | recording =>
          rw [execute_append_of_recording hPhase]
          exact r.settings_recordInOrder action
  | handle event =>
      cases hPhase : r.phase with
      | idle =>
          rw [execute_handle_of_idle hPhase]
          exact r.settings_poll event.timestamp
      | recording =>
          rw [execute_handle_of_recording hPhase]
          exact (settings_react _ _).trans
            (r.settings_poll event.timestamp)

------------------------------------------------------------
-- What Waits
------------------------------------------------------------

/- What holds of every key and the action waiting under it. -/
def Waits
    (P : TimerKey → Action → Prop)
    (r : Recorder) : Prop :=
  ∀ p ∈ r.timers.pending, P p.key p.value

variable {P : TimerKey → Action → Prop}

theorem Waits.of_keeps
    (hWaits : r.Waits P)
    (hKeeps : Keeps r s) :
    s.Waits P := by
  unfold Waits
  rw [hKeeps.timers]
  exact hWaits

/- Anything holds of what waits where nothing does. -/
theorem waits_of_pending_eq_nil
    (hEmpty : r.timers.pending = []) :
    r.Waits P := by
  intro p hp
  rw [hEmpty] at hp
  cases hp

theorem waits_new (settings : Settings) :
    (new settings).Waits P :=
  waits_of_pending_eq_nil rfl

theorem Waits.poll
    (hWaits : r.Waits P)
    (now : Nat) :
    (r.poll now).1.Waits P := by
  have hLater :
      Waits P { r with timers := r.timers.later now } := by
    intro p hp
    exact hWaits p (Timers.mem_of_mem_later hp)
  exact hLater.of_keeps (keeps_settleAll _ _)

/- An event lets at most one more action wait. -/
theorem Waits.react
    {event : Event}
    (hWaits : r.Waits P)
    (hEvent :
      ∀ location key deadline action,
        r.settings.interpret location event =
          .settle key deadline action → P key action) :
    (r.react event).1.Waits P := by
  unfold Recorder.react
  split
  · exact hWaits
  · rename_i key deadline action hVerdict
    intro p hp
    rcases Timers.mem_pending_schedule hp with hOld | hNew
    · exact hWaits p hOld
    · subst hNew
      exact hEvent _ key deadline action hVerdict
  · exact waits_of_pending_eq_nil (pending_recordInOrder _ _)

/- Commands keep what holds of all that they let wait. -/
theorem Waits.execute
    {command : Command}
    (hWaits : r.Waits P)
    (hCommand : command.Schedules r.settings P) :
    (r.execute command).1.Waits P := by
  cases command with
  | start address now =>
      have hNone : (r.begun address).Waits P :=
        waits_of_pending_eq_nil rfl
      cases address with
      | none => exact hNone
      | some url =>
          rw [execute_start_some]
          exact hNone.of_keeps (keeps_record _ _)
  | stop => exact hWaits
  | poll now => exact hWaits.poll now
  | flush => exact waits_of_pending_eq_nil r.pending_flush
  | append action =>
      cases hPhase : r.phase with
      | idle =>
          rw [execute_append_of_idle hPhase]
          exact hWaits
      | recording =>
          rw [execute_append_of_recording hPhase]
          exact waits_of_pending_eq_nil
            (r.pending_recordInOrder action)
  | handle event =>
      have hPoll := hWaits.poll event.timestamp
      cases hPhase : r.phase with
      | idle =>
          rw [execute_handle_of_idle hPhase]
          exact hPoll
      | recording =>
          rw [execute_handle_of_recording hPhase]
          apply hPoll.react
          rw [settings_poll]
          exact hCommand

/-
  What waits in a recorder holds of all that its commands let
  wait, in any run.
-/
theorem Waits.after
    {commands : List Command}
    (hWaits : r.Waits P)
    (hCommands :
      ∀ command ∈ commands, command.Schedules r.settings P) :
    (r.after commands).Waits P := by
  induction commands generalizing r with
  | nil => exact hWaits
  | cons command commands ih =>
      have hNext :=
        hWaits.execute (hCommands command (by simp))
      apply ih hNext
      intro other hOther
      rw [settings_execute]
      exact hCommands other (by simp [hOther])

theorem after_append
    (r : Recorder)
    (before rest : List Command) :
    r.after (before ++ rest) = (r.after before).after rest := by
  induction before generalizing r with
  | nil => rfl
  | cons command before ih => exact ih _

theorem history_append
    (r : Recorder)
    (before rest : List Command) :
    r.history (before ++ rest) =
      r.history before ++ (r.after before).history rest := by
  induction before generalizing r with
  | nil => rfl
  | cons command before ih =>
      rw [List.cons_append, history, history, ih,
        List.append_assoc]
      rfl

theorem settings_after
    (r : Recorder)
    (commands : List Command) :
    (r.after commands).settings = r.settings := by
  induction commands generalizing r with
  | nil => rfl
  | cons command commands ih =>
      exact (ih _).trans (r.settings_execute command)

------------------------------------------------------------
-- What Is Recorded
------------------------------------------------------------

/- Where the actions come from that a command records. -/
inductive Source (r : Recorder) : Command → Action → Prop where
  | started (url : String) (now : Nat) :
      Source r (.start (some url) now)
        (Action.navigate url none now)
  | waited
      {p : Pending TimerKey Action}
      (command : Command)
      (hp : p ∈ r.timers.pending) :
      Source r command p.value
  | happened
      {event : Event}
      {location : Option String}
      {action : Action}
      (hVerdict :
        r.settings.interpret location event.normalise =
          .record action) :
      Source r (.handle event) action
  | appended
      {action : Action}
      (hPhase : r.phase = .recording)
      (hAccepts : r.flush.1.Accepts action) :
      Source r (.append action) action

/- What is recorded by a poll had waited. -/
theorem exists_of_mem_poll
    {now : Nat}
    (hSeen : seen ∈ (r.poll now).2) :
    ∃ p ∈ r.timers.pending,
      seen = r.settings.sanitise p.value := by
  rcases exists_of_mem_settleAll hSeen with
    ⟨entry, hEntry, hSame⟩
  rcases Timers.exists_of_mem_takeDue hEntry with
    ⟨p, hp, rfl⟩
  exact ⟨p, hp, hSame⟩

/- What is recorded by a flush had waited. -/
theorem exists_of_mem_flush
    (hSeen : seen ∈ r.flush.2) :
    ∃ p ∈ r.timers.pending,
      seen = r.settings.sanitise p.value := by
  rcases exists_of_mem_settleAll hSeen with
    ⟨entry, hEntry, hSame⟩
  rcases Timers.exists_of_mem_drain hEntry with
    ⟨p, hp, rfl⟩
  exact ⟨p, hp, hSame⟩

/- What is recorded in order had waited or is the action. -/
theorem exists_of_mem_recordInOrder
    (hSeen : seen ∈ (r.recordInOrder action).2) :
    (∃ p ∈ r.timers.pending,
        seen = r.settings.sanitise p.value) ∨
      (r.flush.1.Accepts action ∧
        seen = r.settings.sanitise action) := by
  have hSettings : r.flush.1.settings = r.settings :=
    (keeps_settleAll _ _).settings
  rw [recordInOrder_eq] at hSeen
  rcases List.mem_append.mp hSeen with hFlushed | hRecorded
  · exact Or.inl (exists_of_mem_flush hFlushed)
  · by_cases hAccepts : r.flush.1.Accepts action
    · have hSame :=
        eq_sanitise_of_record (Option.mem_toList.mp hRecorded)
      rw [hSettings] at hSame
      exact Or.inr ⟨hAccepts, hSame⟩
    · rw [record_of_not_accepts hAccepts] at hRecorded
      cases hRecorded

/- What is recorded of an event had waited or is made of it. -/
theorem exists_of_mem_react
    {event : Event}
    (hSeen : seen ∈ (r.react event).2) :
    (∃ p ∈ r.timers.pending,
        seen = r.settings.sanitise p.value) ∨
      ∃ action,
        r.settings.interpret r.location event =
            .record action ∧
          seen = r.settings.sanitise action := by
  unfold react at hSeen
  split at hSeen
  · cases hSeen
  · cases hSeen
  · rename_i action hVerdict
    have hKeeps := r.keeps_observe event
    have hSource := exists_of_mem_recordInOrder hSeen
    rw [hKeeps.timers, hKeeps.settings] at hSource
    rcases hSource with hWaited | ⟨_, hSame⟩
    · exact Or.inl hWaited
    · exact Or.inr ⟨action, hVerdict, hSame⟩

/- What waits after a poll waited before it. -/
theorem mem_pending_of_poll
    {now : Nat}
    {p : Pending TimerKey Action}
    (hp : p ∈ (r.poll now).1.timers.pending) :
    p ∈ r.timers.pending := by
  have hKeeps :=
    keeps_settleAll
      { r with timers := r.timers.later now }
      (r.timers.takeDue now).2
  rw [poll_eq, hKeeps.timers] at hp
  exact Timers.mem_of_mem_later hp

/-
  Every recorded action has a source, and is its sanitised
  form.
-/
theorem source_of_mem_recorded
    {command : Command}
    (hSeen : seen ∈ r.recorded command) :
    ∃ action,
      r.Source command action ∧
        seen = r.settings.sanitise action := by
  unfold recorded at hSeen
  cases command with
  | start address now =>
      cases address with
      | none => cases hSeen
      | some url =>
          rw [execute_start_some, Option.getD_some,
            Option.mem_toList] at hSeen
          have hSame := eq_sanitise_of_record hSeen
          exact ⟨_, .started url now, hSame⟩
  | stop => cases hSeen
  | poll now =>
      rcases exists_of_mem_poll hSeen with ⟨p, hp, hSame⟩
      exact ⟨p.value, .waited _ hp, hSame⟩
  | flush =>
      rcases exists_of_mem_flush hSeen with ⟨p, hp, hSame⟩
      exact ⟨p.value, .waited _ hp, hSame⟩
  | append action =>
      cases hPhase : r.phase with
      | idle =>
          rw [execute_append_of_idle hPhase] at hSeen
          cases hSeen
      | recording =>
          rw [execute_append_of_recording hPhase] at hSeen
          rcases exists_of_mem_recordInOrder hSeen with
            ⟨p, hp, hSame⟩ | ⟨hAccepts, hSame⟩
          · exact ⟨p.value, .waited _ hp, hSame⟩
          · exact ⟨action, .appended hPhase hAccepts, hSame⟩
  | handle event =>
      cases hPhase : r.phase with
      | idle =>
          rw [execute_handle_of_idle hPhase] at hSeen
          rcases exists_of_mem_poll hSeen with
            ⟨p, hp, hSame⟩
          exact ⟨p.value, .waited _ hp, hSame⟩
      | recording =>
          rw [execute_handle_of_recording hPhase] at hSeen
          rcases List.mem_append.mp hSeen with hFired | hMade
          · rcases exists_of_mem_poll hFired with
              ⟨p, hp, hSame⟩
            exact ⟨p.value, .waited _ hp, hSame⟩
          · have hMade := exists_of_mem_react hMade
            rw [settings_poll] at hMade
            rcases hMade with
              ⟨p, hp, hSame⟩ | ⟨action, hVerdict, hSame⟩
            · exact ⟨p.value,
                .waited _ (mem_pending_of_poll hp), hSame⟩
            · exact ⟨action, .happened hVerdict, hSame⟩

/- An appended action that is accepted is recorded. -/
theorem mem_recorded_append
    (hPhase : r.phase = .recording)
    (hAccepts : r.flush.1.Accepts action) :
    r.settings.sanitise action ∈
      r.recorded (.append action) := by
  unfold recorded
  rw [execute_append_of_recording hPhase, recordInOrder_eq,
    record_of_accepts hAccepts, settings_flush]
  exact List.mem_append_right _ (List.mem_singleton_self _)

/-
  An event that stands for an action which is new is the last
  to be recorded of all that settles by then.
-/
theorem exists_handle_of_record
    {event : Event}
    {action : Action}
    (hPhase : r.phase = .recording)
    (hVerdict :
      ∀ location,
        r.settings.interpret location event.normalise =
          .record action)
    (hAccepts :
      (((r.poll event.timestamp).1.observe
        event.normalise).flush.1).Accepts action) :
    ∃ earlier,
      (r.handle event).2 =
        earlier ++ [r.settings.sanitise action] := by
  have hHandle := execute_handle_of_recording hPhase event
  have hSettings := r.settings_poll event.timestamp
  generalize r.poll event.timestamp = polled at *
  have hObserved :=
    (keeps_observe polled.1 event.normalise).settings
  have hReact :
      (polled.1.react event.normalise).2 =
        (polled.1.observe event.normalise).flush.2 ++
          [r.settings.sanitise action] := by
    unfold react
    rw [hSettings, hVerdict]
    dsimp only
    rw [hSettings] at hObserved
    rw [recordInOrder_eq, record_of_accepts hAccepts,
      settings_flush, hObserved]
    rfl
  have hAll := Option.some.inj (congrArg Prod.snd hHandle)
  rw [hReact, ← List.append_assoc] at hAll
  exact ⟨_, hAll⟩

/-
  The answers of a run are the answers of its commands, each
  in the state that the commands before it led to.
-/
theorem mem_answers_iff
    {commands : List Command}
    {answer : Answer} :
    answer ∈ r.answers commands ↔
      ∃ before command rest,
        commands = before ++ command :: rest ∧
          answer = (r.after before).answer command := by
  constructor
  · intro hAnswer
    induction commands generalizing r with
    | nil => cases hAnswer
    | cons first commands ih =>
        rcases List.mem_cons.mp hAnswer with rfl | hLater
        · exact ⟨[], first, commands, rfl, rfl⟩
        · rcases ih hLater with
            ⟨before, command, rest, rfl, hSame⟩
          exact ⟨first :: before, command, rest, rfl, hSame⟩
  · rintro ⟨before, command, rest, rfl, rfl⟩
    induction before generalizing r with
    | nil => exact List.mem_cons_self
    | cons first before ih =>
        exact List.mem_cons_of_mem _ ih

end Recorder

end Capture

end Clickstream
