import Clickstream.Proofs.Capture.Run

/-
  Candidates: the actions that come up for a decision, in the
  order in which they do. A recorder is a table of timers in
  front of a filter: what the timers let out and what need not
  wait goes through the filter in one stream.

  Key definitions:
    * `Candidate`
    * `Recorder.judge`, `Recorder.judgeAll`
    * `Recorder.candidates`, `Recorder.stream`
    * `Command.Offers`, `Recorder.WaitsAs`
    * `Recorder.Agrees`: states that decide alike

  Key theorems:
    * `Recorder.sublist_judgeAll`
    * `Recorder.WaitsAs.forall_mem_stream`
    * `Recorder.Agrees.judgeAll`
    * `Recorder.judges_stream`
-/

namespace Clickstream

namespace Capture

/- Whether a command neither begins nor ends a recording. -/
def Command.IsOngoing : Command → Prop
  | start _ _ => False
  | stop => False
  | _ => True

------------------------------------------------------------
-- Candidates
------------------------------------------------------------

/-
  An action that comes up for a decision, and the key under
  which it waited for that, if it did.
-/
structure Candidate where
  waited : Option TimerKey
  action : Action
deriving DecidableEq

/- What waited comes up when it has waited long enough. -/
def Candidate.ofEntry (entry : TimerKey × Action) : Candidate :=
  ⟨some entry.1, entry.2⟩

/- What holds of the candidate of a verdict, if there is one. -/
def Verdict.Offers (P : Candidate → Prop) : Verdict → Prop
  | .ignore => True
  | .record action => P ⟨none, action⟩
  | .settle key _ action => P ⟨some key, action⟩

/-
  Whether the candidate that a command brings up, sooner or
  later, is of a kind under these settings.
-/
def Command.Offers
    (settings : Settings)
    (P : Candidate → Prop) : Command → Prop
  | handle event =>
      ∀ location,
        (settings.interpret location event.normalise).Offers P
  | append action => P ⟨none, action⟩
  | _ => True

namespace Recorder

/- Decide about a candidate. -/
def judge
    (r : Recorder)
    (candidate : Candidate) : Recorder × Option Action :=
  match candidate.waited with
  | some key => r.settle key candidate.action
  | none => r.record candidate.action

/- Decide about one candidate after the other. -/
def judgeAll
    (r : Recorder) :
    List Candidate → Recorder × List Action
  | [] => (r, [])
  | candidate :: rest =>
      (((r.judge candidate).1.judgeAll rest).1,
        (r.judge candidate).2.toList ++
          ((r.judge candidate).1.judgeAll rest).2)

/- An action comes up behind all that waits. -/
def inOrder
    (r : Recorder)
    (action : Action) : List Candidate :=
  r.timers.drain.2.map Candidate.ofEntry ++ [⟨none, action⟩]

/- What comes up when an event is acted upon. -/
def reactions
    (r : Recorder)
    (event : Event) : List Candidate :=
  match r.settings.interpret r.location event with
  | .record action => r.inOrder action
  | _ => []

/- What comes up during a command that goes on recording. -/
def candidates (r : Recorder) : Command → List Candidate
  | .start _ _ => []
  | .stop => []
  | .poll now =>
      (r.timers.takeDue now).2.map Candidate.ofEntry
  | .flush => r.timers.drain.2.map Candidate.ofEntry
  | .append action =>
      match r.phase with
      | .idle => []
      | .recording => r.inOrder action
  | .handle event =>
      (r.timers.takeDue event.timestamp).2.map
          Candidate.ofEntry ++
        match r.phase with
        | .idle => []
        | .recording =>
            (r.poll event.timestamp).1.reactions
              event.normalise

/- What comes up during commands, one after the other. -/
def stream (r : Recorder) : List Command → List Candidate
  | [] => []
  | command :: rest =>
      r.candidates command ++ (r.execute command).1.stream rest

variable {r s t : Recorder}
variable {candidate : Candidate}

theorem stream_append
    (r : Recorder)
    (before rest : List Command) :
    r.stream (before ++ rest) =
      r.stream before ++ (r.after before).stream rest := by
  induction before generalizing r with
  | nil => rfl
  | cons command before ih =>
      rw [List.cons_append, stream, stream, ih,
        List.append_assoc]
      rfl

theorem candidates_handle_of_recording
    (hPhase : r.phase = .recording)
    (event : Event) :
    r.candidates (.handle event) =
      (r.timers.takeDue event.timestamp).2.map
          Candidate.ofEntry ++
        (r.poll event.timestamp).1.reactions
          event.normalise := by
  unfold candidates
  rw [hPhase]

------------------------------------------------------------
-- Kinds of Candidates
------------------------------------------------------------

/- Whether all that waits will be a candidate of a kind. -/
def WaitsAs
    (P : Candidate → Prop)
    (r : Recorder) : Prop :=
  r.Waits fun key action => P ⟨some key, action⟩

variable {P : Candidate → Prop}

/- What is offered and has to wait waits. -/
theorem schedules_of_offers
    {settings : Settings}
    {command : Command}
    (hOffers : command.Offers settings P) :
    command.Schedules settings
      fun key action => P ⟨some key, action⟩ := by
  cases command with
  | handle event =>
      intro location key deadline action hVerdict
      have hOffer := hOffers location
      rw [hVerdict] at hOffer
      exact hOffer
  | _ => trivial

theorem WaitsAs.execute
    {command : Command}
    (hWaits : r.WaitsAs P)
    (hOffers : command.Offers r.settings P) :
    (r.execute command).1.WaitsAs P :=
  Waits.execute hWaits (schedules_of_offers hOffers)

theorem WaitsAs.after
    {commands : List Command}
    (hWaits : r.WaitsAs P)
    (hOffers :
      ∀ command ∈ commands, command.Offers r.settings P) :
    (r.after commands).WaitsAs P :=
  Waits.after hWaits fun command hCommand =>
    schedules_of_offers (hOffers command hCommand)

theorem WaitsAs.forall_mem_takeDue
    (hWaits : r.WaitsAs P)
    (now : Nat) :
    ∀ candidate ∈
        (r.timers.takeDue now).2.map Candidate.ofEntry,
      P candidate := by
  intro candidate hCandidate
  rcases List.mem_map.mp hCandidate with ⟨entry, hEntry, rfl⟩
  rcases Timers.exists_of_mem_takeDue hEntry with
    ⟨p, hp, rfl⟩
  exact hWaits p hp

theorem WaitsAs.forall_mem_drain
    (hWaits : r.WaitsAs P) :
    ∀ candidate ∈ r.timers.drain.2.map Candidate.ofEntry,
      P candidate := by
  intro candidate hCandidate
  rcases List.mem_map.mp hCandidate with ⟨entry, hEntry, rfl⟩
  rcases Timers.exists_of_mem_drain hEntry with ⟨p, hp, rfl⟩
  exact hWaits p hp

theorem WaitsAs.forall_mem_inOrder
    {action : Action}
    (hWaits : r.WaitsAs P)
    (hAction : P ⟨none, action⟩) :
    ∀ candidate ∈ r.inOrder action, P candidate := by
  intro candidate hCandidate
  rcases List.mem_append.mp hCandidate with hWaited | hNow
  · exact hWaits.forall_mem_drain candidate hWaited
  · rw [List.mem_singleton.mp hNow]
    exact hAction

/-
  What comes up during a command waited before or is offered
  by the command.
-/
theorem WaitsAs.forall_mem_candidates
    {command : Command}
    (hWaits : r.WaitsAs P)
    (hOffers : command.Offers r.settings P) :
    ∀ candidate ∈ r.candidates command, P candidate := by
  unfold candidates
  cases command with
  | start address now => simp
  | stop => simp
  | poll now => exact hWaits.forall_mem_takeDue now
  | flush => exact hWaits.forall_mem_drain
  | append action =>
      cases r.phase with
      | idle => simp
      | recording => exact hWaits.forall_mem_inOrder hOffers
  | handle event =>
      have hPoll : (r.poll event.timestamp).1.WaitsAs P :=
        Waits.poll hWaits event.timestamp
      have hReactions :
          ∀ candidate ∈
              (r.poll event.timestamp).1.reactions
                event.normalise,
            P candidate := by
        have hOffer :=
          hOffers (r.poll event.timestamp).1.location
        rw [← r.settings_poll event.timestamp] at hOffer
        unfold reactions
        split
        · rename_i action hVerdict
          rw [hVerdict] at hOffer
          exact hPoll.forall_mem_inOrder hOffer
        · simp
      intro candidate hCandidate
      rcases List.mem_append.mp hCandidate with hDue | hMade
      · exact hWaits.forall_mem_takeDue _ candidate hDue
      · split at hMade
        · cases hMade
        · exact hReactions candidate hMade

/- The same holds of all that comes up during a run. -/
theorem WaitsAs.forall_mem_stream
    {commands : List Command}
    (hWaits : r.WaitsAs P)
    (hOffers :
      ∀ command ∈ commands, command.Offers r.settings P) :
    ∀ candidate ∈ r.stream commands, P candidate := by
  induction commands generalizing r with
  | nil => simp [stream]
  | cons command commands ih =>
      have hFirst := hOffers command List.mem_cons_self
      have hRest :
          ∀ other ∈ commands,
            other.Offers (r.execute command).1.settings P := by
        intro other hOther
        rw [settings_execute]
        exact hOffers other (List.mem_cons_of_mem _ hOther)
      intro candidate hCandidate
      rcases List.mem_append.mp hCandidate with hNow | hLater
      · exact hWaits.forall_mem_candidates hFirst candidate hNow
      · exact ih (hWaits.execute hFirst) hRest candidate hLater

------------------------------------------------------------
-- Judging
------------------------------------------------------------

theorem judgeAll_append
    (r : Recorder)
    (first second : List Candidate) :
    r.judgeAll (first ++ second) =
      (((r.judgeAll first).1.judgeAll second).1,
        (r.judgeAll first).2 ++
          ((r.judgeAll first).1.judgeAll second).2) := by
  induction first generalizing r with
  | nil => rfl
  | cons candidate first ih =>
      rw [List.cons_append, judgeAll, judgeAll, ih,
        List.append_assoc]

/- Settling is judging what waited. -/
theorem judgeAll_map_ofEntry
    (r : Recorder)
    (entries : List (TimerKey × Action)) :
    r.judgeAll (entries.map Candidate.ofEntry) =
      r.settleAll entries := by
  induction entries generalizing r with
  | nil => rfl
  | cons entry entries ih =>
      rw [List.map_cons, judgeAll, settleAll_cons, ih]
      rfl

theorem judgeAll_singleton
    (r : Recorder)
    (candidate : Candidate) :
    r.judgeAll [candidate] =
      ((r.judge candidate).1,
        (r.judge candidate).2.toList) := by
  rw [judgeAll, judgeAll, List.append_nil]

theorem keeps_judge
    (r : Recorder)
    (candidate : Candidate) :
    Keeps r (r.judge candidate).1 := by
  unfold judge
  split
  · exact keeps_settle _ _ _
  · exact keeps_record _ _

theorem keeps_judgeAll
    (r : Recorder)
    (candidates : List Candidate) :
    Keeps r (r.judgeAll candidates).1 := by
  induction candidates generalizing r with
  | nil => exact Keeps.rfl
  | cons candidate candidates ih =>
      exact (r.keeps_judge candidate).trans (ih _)

/- A candidate is recorded in sanitised form, or not at all. -/
theorem judge_eq_none_or
    (r : Recorder)
    (candidate : Candidate) :
    (r.judge candidate).2 = none ∨
      (r.judge candidate).2 =
        some (r.settings.sanitise candidate.action) := by
  cases hSeen : (r.judge candidate).2 with
  | none => exact Or.inl rfl
  | some seen =>
      unfold judge at hSeen
      split at hSeen
      · rw [eq_sanitise_of_settle hSeen]
        exact Or.inr rfl
      · rw [eq_sanitise_of_record hSeen]
        exact Or.inr rfl

/- What is recorded are candidates, in their order. -/
theorem sublist_judgeAll
    (r : Recorder)
    (candidates : List Candidate) :
    (r.judgeAll candidates).2.Sublist
      (candidates.map
        (fun candidate =>
          r.settings.sanitise candidate.action)) := by
  induction candidates generalizing r with
  | nil => exact List.Sublist.refl _
  | cons candidate candidates ih =>
      have hRest := ih (r.judge candidate).1
      rw [(r.keeps_judge candidate).settings] at hRest
      rw [judgeAll, List.map_cons]
      rcases r.judge_eq_none_or candidate with hNone | hSome
      · rw [hNone]
        exact hRest.cons _
      · rw [hSome]
        exact hRest.cons_cons _

------------------------------------------------------------
-- Agreement
------------------------------------------------------------

/-
  Whether two recorders decide alike about every candidate:
  they differ at most in what waits and where the page is.
-/
structure Agrees (r s : Recorder) : Prop where
  settings : s.settings = r.settings
  phase : s.phase = r.phase
  lastRecorded : s.lastRecorded = r.lastRecorded
  lastNavigation : s.lastNavigation = r.lastNavigation
  lastValues : s.lastValues = r.lastValues
  lastScroll : s.lastScroll = r.lastScroll

namespace Agrees

theorem rfl : Agrees r r :=
  ⟨Eq.refl _, Eq.refl _, Eq.refl _, Eq.refl _, Eq.refl _,
    Eq.refl _⟩

theorem trans
    (hFirst : Agrees r s)
    (hSecond : Agrees s t) :
    Agrees r t where
  settings := hSecond.settings.trans hFirst.settings
  phase := hSecond.phase.trans hFirst.phase
  lastRecorded :=
    hSecond.lastRecorded.trans hFirst.lastRecorded
  lastNavigation :=
    hSecond.lastNavigation.trans hFirst.lastNavigation
  lastValues := hSecond.lastValues.trans hFirst.lastValues
  lastScroll := hSecond.lastScroll.trans hFirst.lastScroll

variable {action : Action}
variable {key : TimerKey}

theorem accepts_iff
    (hAgrees : Agrees r s)
    (action : Action) :
    s.Accepts action ↔ r.Accepts action := by
  unfold Accepts isDeadNavigation isDuplicate
  rw [hAgrees.settings, hAgrees.lastRecorded,
    hAgrees.lastNavigation]

theorem record
    (hAgrees : Agrees r s)
    (action : Action) :
    Agrees (r.record action).1 (s.record action).1 ∧
      (s.record action).2 = (r.record action).2 := by
  by_cases hAccepts : r.Accepts action
  · have hOther := (hAgrees.accepts_iff action).mpr hAccepts
    rw [record_of_accepts hAccepts, record_of_accepts hOther,
      hAgrees.settings]
    refine ⟨?_, Eq.refl _⟩
    unfold follow
    split
    · exact ⟨hAgrees.settings, hAgrees.phase, Eq.refl _,
        Eq.refl _, hAgrees.lastValues, hAgrees.lastScroll⟩
    · exact ⟨hAgrees.settings, hAgrees.phase, Eq.refl _,
        hAgrees.lastNavigation, hAgrees.lastValues,
        hAgrees.lastScroll⟩
  · have hOther := mt (hAgrees.accepts_iff action).mp hAccepts
    rw [record_of_not_accepts hAccepts,
      record_of_not_accepts hOther]
    exact ⟨hAgrees, Eq.refl _⟩

theorem isNews_iff
    (hAgrees : Agrees r s)
    (key : TimerKey)
    (action : Action) :
    s.IsNews key action ↔ r.IsNews key action := by
  cases key with
  | hover => exact Iff.rfl
  | typing field =>
      unfold IsNews lastValue?
      rw [hAgrees.lastValues]
  | scroll =>
      unfold IsNews
      rw [hAgrees.settings, hAgrees.lastScroll]

theorem settles_iff
    (hAgrees : Agrees r s)
    (key : TimerKey)
    (action : Action) :
    s.Settles key action ↔ r.Settles key action := by
  constructor
  · intro hSettles
    exact ⟨hAgrees.phase.symm.trans hSettles.phase,
      (hAgrees.isNews_iff key action).mp hSettles.isNews,
      (hAgrees.accepts_iff action).mp hSettles.accepts⟩
  · intro hSettles
    exact ⟨hAgrees.phase.trans hSettles.phase,
      (hAgrees.isNews_iff key action).mpr hSettles.isNews,
      (hAgrees.accepts_iff action).mpr hSettles.accepts⟩

theorem remember
    (hAgrees : Agrees r s)
    (key : TimerKey)
    (action : Action) :
    Agrees (r.remember key action) (s.remember key action) := by
  cases key with
  | hover => exact hAgrees
  | typing field =>
      have hValues :
          (s.rememberValue field
              (action.valueText?.getD "")).lastValues =
            (r.rememberValue field
              (action.valueText?.getD "")).lastValues := by
        unfold rememberValue
        rw [hAgrees.lastValues]
      exact ⟨hAgrees.settings, hAgrees.phase,
        hAgrees.lastRecorded, hAgrees.lastNavigation, hValues,
        hAgrees.lastScroll⟩
  | scroll =>
      exact ⟨hAgrees.settings, hAgrees.phase,
        hAgrees.lastRecorded, hAgrees.lastNavigation,
        hAgrees.lastValues, Eq.refl _⟩

theorem settle
    (hAgrees : Agrees r s)
    (key : TimerKey)
    (action : Action) :
    Agrees (r.settle key action).1 (s.settle key action).1 ∧
      (s.settle key action).2 = (r.settle key action).2 := by
  by_cases hSettles : r.Settles key action
  · have hOther :=
      (hAgrees.settles_iff key action).mpr hSettles
    rw [settle_of_settles hSettles, settle_of_settles hOther,
      hAgrees.settings]
    exact ⟨(hAgrees.record action).1.remember key action,
      Eq.refl _⟩
  · have hOther :=
      mt (hAgrees.settles_iff key action).mp hSettles
    rw [settle_of_not_settles hSettles,
      settle_of_not_settles hOther]
    exact ⟨hAgrees, Eq.refl _⟩

theorem judge
    (hAgrees : Agrees r s)
    (candidate : Candidate) :
    Agrees (r.judge candidate).1 (s.judge candidate).1 ∧
      (s.judge candidate).2 = (r.judge candidate).2 := by
  unfold Recorder.judge
  split
  · exact hAgrees.settle _ _
  · exact hAgrees.record _

/- Recorders that agree go on to agree. -/
theorem judgeAll
    (hAgrees : Agrees r s)
    (candidates : List Candidate) :
    Agrees (r.judgeAll candidates).1
        (s.judgeAll candidates).1 ∧
      (s.judgeAll candidates).2 =
        (r.judgeAll candidates).2 := by
  induction candidates generalizing r s with
  | nil => exact ⟨hAgrees, Eq.refl _⟩
  | cons candidate candidates ih =>
      have hFirst := hAgrees.judge candidate
      have hRest := ih hFirst.1
      rw [Recorder.judgeAll, Recorder.judgeAll]
      exact ⟨hRest.1, by rw [hFirst.2, hRest.2]⟩

end Agrees

------------------------------------------------------------
-- Runs as Streams
------------------------------------------------------------

/-
  Whether judging these candidates leads to this outcome, up
  to what waits and where the page is.
-/
structure Judges
    (r : Recorder)
    (candidates : List Candidate)
    (outcome : Recorder × List Action) : Prop where
  agrees : Agrees (r.judgeAll candidates).1 outcome.1
  recorded : outcome.2 = (r.judgeAll candidates).2

namespace Judges

variable {candidates first second : List Candidate}
variable {recorded more : List Action}

theorem nil (hAgrees : Agrees r s) : Judges r [] (s, []) :=
  ⟨hAgrees, Eq.refl _⟩

/- What comes up first is judged first. -/
theorem append
    (hFirst : Judges r first (s, recorded))
    (hSecond : Judges s second (t, more)) :
    Judges r (first ++ second) (t, recorded ++ more) := by
  have hRest := hFirst.agrees.judgeAll second
  have hRecorded : recorded = (r.judgeAll first).2 :=
    hFirst.recorded
  have hMore : more = (s.judgeAll second).2 :=
    hSecond.recorded
  constructor
  · rw [judgeAll_append]
    exact hRest.1.trans hSecond.agrees
  · rw [judgeAll_append]
    dsimp only
    rw [hRecorded, hMore, hRest.2]

theorem of_agrees
    (hAgrees : Agrees r s)
    (hJudges : Judges s candidates (t, recorded)) :
    Judges r candidates (t, recorded) :=
  (nil hAgrees).append hJudges

end Judges

/- Settling what waited is judging it. -/
theorem judges_settleAll
    (hAgrees : Agrees r s)
    (entries : List (TimerKey × Action)) :
    Judges r (entries.map Candidate.ofEntry)
      (s.settleAll entries) := by
  have hRest :=
    hAgrees.judgeAll (entries.map Candidate.ofEntry)
  rw [judgeAll_map_ofEntry s] at hRest
  exact ⟨hRest.1, hRest.2⟩

theorem judges_poll (r : Recorder) (now : Nat) :
    Judges r
      ((r.timers.takeDue now).2.map Candidate.ofEntry)
      (r.poll now) := by
  have hAgrees :
      Agrees r { r with timers := r.timers.later now } :=
    ⟨rfl, rfl, rfl, rfl, rfl, rfl⟩
  exact judges_settleAll hAgrees _

theorem judges_flush (r : Recorder) :
    Judges r (r.timers.drain.2.map Candidate.ofEntry)
      r.flush := by
  have hAgrees :
      Agrees r { r with timers := r.timers.clear } :=
    ⟨rfl, rfl, rfl, rfl, rfl, rfl⟩
  exact judges_settleAll hAgrees _

theorem judges_recordInOrder
    (r : Recorder)
    (action : Action) :
    Judges r (r.inOrder action) (r.recordInOrder action) := by
  have hRecord :
      Judges r.flush.1 [⟨none, action⟩]
        ((r.flush.1.record action).1,
          (r.flush.1.record action).2.toList) := by
    constructor
    · rw [judgeAll_singleton]
      exact Agrees.rfl
    · rw [judgeAll_singleton]
      rfl
  exact (judges_flush r).append hRecord

theorem agrees_observe (r : Recorder) (event : Event) :
    Agrees r (r.observe event) := by
  unfold observe
  split
  · exact ⟨rfl, rfl, rfl, rfl, rfl, rfl⟩
  · exact Agrees.rfl

theorem judges_react (r : Recorder) (event : Event) :
    Judges r (r.reactions event) (r.react event) := by
  have hTimers := (r.keeps_observe event).timers
  unfold reactions react
  cases r.settings.interpret r.location event with
  | ignore => exact Judges.nil Agrees.rfl
  | settle key deadline action =>
      exact Judges.nil ⟨rfl, rfl, rfl, rfl, rfl, rfl⟩
  | record action =>
      have hJudges :=
        (r.observe event).judges_recordInOrder action
      unfold inOrder at hJudges
      rw [hTimers] at hJudges
      exact hJudges.of_agrees (r.agrees_observe event)

/- A command judges what comes up during it. -/
theorem judges_execute
    {command : Command}
    (hOngoing : command.IsOngoing) :
    Judges r (r.candidates command)
      ((r.execute command).1, r.recorded command) := by
  cases command with
  | start address now => exact hOngoing.elim
  | stop => exact hOngoing.elim
  | poll now => exact r.judges_poll now
  | flush => exact r.judges_flush
  | append action =>
      unfold candidates recorded
      cases hPhase : r.phase with
      | idle =>
          rw [execute_append_of_idle hPhase]
          exact Judges.nil Agrees.rfl
      | recording =>
          rw [execute_append_of_recording hPhase]
          exact r.judges_recordInOrder action
  | handle event =>
      have hPoll := r.judges_poll event.timestamp
      unfold candidates recorded
      cases hPhase : r.phase with
      | idle =>
          rw [execute_handle_of_idle hPhase]
          dsimp only
          rw [List.append_nil]
          exact hPoll
      | recording =>
          rw [execute_handle_of_recording hPhase]
          exact hPoll.append (judges_react _ _)

/- Such a command does not change the phase. -/
theorem phase_execute
    {command : Command}
    (hOngoing : command.IsOngoing) :
    (r.execute command).1.phase = r.phase := by
  have hJudges : Judges r _ _ := judges_execute hOngoing
  exact hJudges.agrees.phase.trans (r.keeps_judgeAll _).phase

/-
  What a run records is what is left of its stream. The proof
  goes by induction on the commands; what waits and where the
  page is differ between the two sides but decide nothing.
-/
theorem judges_stream
    {commands : List Command}
    (hOngoing : ∀ command ∈ commands, command.IsOngoing) :
    Judges r (r.stream commands)
      (r.after commands, r.history commands) := by
  induction commands generalizing r with
  | nil => exact Judges.nil Agrees.rfl
  | cons command commands ih =>
      have hFirst : Judges r (r.candidates command) _ :=
        judges_execute (hOngoing command List.mem_cons_self)
      have hRest :
          Judges (r.execute command).1 _ _ :=
        ih fun other hOther =>
          hOngoing other (List.mem_cons_of_mem _ hOther)
      exact hFirst.append hRest

theorem phase_after
    {commands : List Command}
    (hOngoing : ∀ command ∈ commands, command.IsOngoing) :
    (r.after commands).phase = r.phase := by
  have hJudges : Judges r _ _ := judges_stream hOngoing
  exact hJudges.agrees.phase.trans (r.keeps_judgeAll _).phase

end Recorder

end Capture

end Clickstream
