import Clickstream.Proofs.Capture.LastCandidate

/-
  The last state of a control: what the last recorded action
  on it carries. That is its last reading, unless the reading
  repeats the action recorded right before it, or its text is
  taken for unchanged.

  Key definitions:
    * `lastOn`
    * `Recorder.Remembers`
    * `Recorder.Repeats`, `Reading.IsMistaken`

  Key theorems:
    * `Recorder.lastRecorded_judgeAll`
    * `Recorder.Remembers.judgeAll`
    * `Recorder.judge_of_isToldBy`
    * `Recorder.exists_lastOn_of_start`
-/

namespace Clickstream

namespace Capture

variable {settings : Settings}
variable {control : Control}
variable {reading : Reading}
variable {action seen : Action}

------------------------------------------------------------
-- The Last Action
------------------------------------------------------------

/- The last of some actions on a control. -/
def lastOn
    (control : Control)
    (actions : List Action) : Option Action :=
  (actions.filter (fun a => a.IsOn control)).getLast?

theorem lastOn_append
    (control : Control)
    (first second : List Action) :
    lastOn control (first ++ second) =
      (lastOn control second).or (lastOn control first) := by
  unfold lastOn
  rw [List.filter_append, List.getLast?_append]

theorem filter_isOn_eq_nil
    {actions : List Action}
    (hNone : ∀ a ∈ actions, ¬ a.IsOn control) :
    actions.filter (fun a => a.IsOn control) = [] := by
  rw [List.filter_eq_nil_iff]
  exact fun a ha hOn => hNone a ha (of_decide_eq_true hOn)

theorem lastOn_eq_none
    {actions : List Action}
    (hNone : ∀ a ∈ actions, ¬ a.IsOn control) :
    lastOn control actions = none := by
  unfold lastOn
  rw [filter_isOn_eq_nil hNone]
  rfl

theorem lastOn_singleton
    (hOn : action.IsOn control) :
    lastOn control [action] = some action := by
  unfold lastOn
  rw [List.filter_cons_of_pos (by simpa using hOn)]
  rfl

/- An action at the end is the last one. -/
theorem lastOn_append_singleton
    (actions : List Action)
    (hOn : action.IsOn control) :
    lastOn control (actions ++ [action]) = some action := by
  rw [lastOn_append, lastOn_singleton hOn, Option.some_or]

/- Other actions at the end do not count. -/
theorem lastOn_append_of_not_isOn
    (actions : List Action)
    {more : List Action}
    (hNone : ∀ a ∈ more, ¬ a.IsOn control) :
    lastOn control (actions ++ more) =
      lastOn control actions := by
  rw [lastOn_append, lastOn_eq_none hNone, Option.none_or]

theorem lastOn_of_getLast?
    {actions : List Action}
    (hLast : actions.getLast? = some action)
    (hOn : action.IsOn control) :
    lastOn control actions = some action := by
  rcases List.getLast?_eq_some_iff.mp hLast with ⟨first, rfl⟩
  exact lastOn_append_singleton first hOn

namespace Recorder

variable {r : Recorder}
variable {candidate : Candidate}
variable {candidates : List Candidate}
variable {commands : List Command}
variable {recorded : List Action}

------------------------------------------------------------
-- What Is Remembered
------------------------------------------------------------

/- The last recorded action is the last that was recorded. -/
theorem lastRecorded_judge
    (r : Recorder)
    (candidate : Candidate) :
    (r.judge candidate).1.lastRecorded =
      (r.judge candidate).2.or r.lastRecorded := by
  have hRecord :
      ∀ a, r.Accepts a →
        (r.record a).1.lastRecorded =
          some (r.settings.sanitise a) := by
    intro a hAccepts
    rw [record_of_accepts hAccepts]
  unfold judge
  split
  · rename_i key _
    by_cases hSettles : r.Settles key candidate.action
    · have hLast := hRecord _ hSettles.accepts
      rw [settle_of_settles hSettles, Option.some_or]
      cases key <;> exact hLast
    · rw [settle_of_not_settles hSettles, Option.none_or]
  · by_cases hAccepts : r.Accepts candidate.action
    · rw [hRecord _ hAccepts, record_of_accepts hAccepts,
        Option.some_or]
    · rw [record_of_not_accepts hAccepts, Option.none_or]

theorem lastRecorded_judgeAll
    (r : Recorder)
    (candidates : List Candidate) :
    (r.judgeAll candidates).1.lastRecorded =
      (r.judgeAll candidates).2.getLast?.or
        r.lastRecorded := by
  induction candidates generalizing r with
  | nil => rfl
  | cons candidate candidates ih =>
      have hToList :
          ∀ a : Option Action, a.toList.getLast? = a := by
        intro a
        cases a <;> rfl
      rw [judgeAll]
      dsimp only
      rw [ih, lastRecorded_judge, List.getLast?_append,
        hToList, Option.or_assoc]

/- Recording does not touch the texts that were typed. -/
theorem lastValues_record
    (r : Recorder)
    (action : Action) :
    (r.record action).1.lastValues = r.lastValues := by
  by_cases hAccepts : r.Accepts action
  · rw [record_of_accepts hAccepts]
    unfold follow
    split <;> rfl
  · rw [record_of_not_accepts hAccepts]

theorem lastValue?_rememberValue
    (r : Recorder)
    (field other : Field)
    (value : String) :
    (r.rememberValue field value).lastValue? other =
      if field = other then some value
      else r.lastValue? other := by
  unfold rememberValue lastValue?
  dsimp only
  by_cases hSame : field = other
  · rw [if_pos hSame,
      List.find?_cons_of_pos (by simpa using hSame)]
    rfl
  · rw [if_neg hSame,
      List.find?_cons_of_neg (by simpa using hSame),
      List.find?_filter]
    congr 2
    funext entry
    by_cases hOther : entry.1 = other
    · simp [hOther, Ne.symm hSame]
    · simp [hOther]

/- Only what was typed is remembered as a text. -/
theorem lastValues_judge
    (hWaited :
      ∀ field, candidate.waited ≠ some (.typing field)) :
    (r.judge candidate).1.lastValues = r.lastValues := by
  unfold judge
  split
  · rename_i key hKey
    by_cases hSettles : r.Settles key candidate.action
    · rw [settle_of_settles hSettles]
      cases key with
      | typing field => exact absurd hKey (hWaited field)
      | hover => exact r.lastValues_record _
      | scroll => exact r.lastValues_record _
    · rw [settle_of_not_settles hSettles]
  · exact r.lastValues_record _

/-
  Whether the last texts are those that the last recorded
  actions on their fields tell, each of them read by one of
  these commands.
-/
def Remembers
    (commands : List Command)
    (r : Recorder)
    (recorded : List Action) : Prop :=
  ∀ field text,
    r.lastValue? field = some text →
      ∃ (reading : Reading) (action : Action),
        reading.IsReadBy commands ∧
          reading.control = ⟨field, .entry⟩ ∧
          reading.value = some (.text text) ∧
          reading.IsToldBy action ∧
          lastOn ⟨field, .entry⟩ recorded =
            some (r.settings.sanitise action)

/- Actions on other controls do not disturb it. -/
theorem Remembers.of_not_isOn
    {s : Recorder}
    {more : List Action}
    (hRemembers : r.Remembers commands recorded)
    (hSettings : s.settings = r.settings)
    (hValues : s.lastValues = r.lastValues)
    (hMore :
      ∀ a ∈ more, ∀ field, ¬ a.IsOn ⟨field, .entry⟩) :
    s.Remembers commands (recorded ++ more) := by
  intro field text hText
  unfold lastValue? at hText
  rw [hValues] at hText
  rw [lastOn_append_of_not_isOn recorded
    (fun a ha => hMore a ha field), hSettings]
  exact hRemembers field text hText

/- What is recorded of a candidate is on the same control. -/
theorem isOn_of_mem_judge
    (hSeen : seen ∈ (r.judge candidate).2.toList)
    (hOn : seen.IsOn control) :
    candidate.action.IsOn control := by
  have hSeen := Option.mem_toList.mp hSeen
  rcases r.judge_eq_none_or candidate with hNone | hSome
  · rw [hNone] at hSeen
    cases hSeen
  · rw [hSome] at hSeen
    cases hSeen
    exact (r.settings.isOn_sanitise).mp hOn

/- What is typed tells a text. -/
theorem valueText?_of_isToldBy
    (hKind : reading.control.kind = .entry)
    (hTold : reading.IsToldBy action) :
    reading.value =
      some (.text (action.valueText?.getD "")) := by
  rcases reading.isText hKind with ⟨text, hText⟩
  have hValue := hTold.value.trans hText
  have hTyped : action.valueText? = some text := by
    unfold Action.valueText?
    rw [hValue]
    rfl
  rw [hTyped, hText]
  rfl

/- A text that is recorded is remembered. -/
theorem Remembers.settle
    (hRemembers : r.Remembers commands recorded)
    (hRead : reading.IsReadBy commands)
    (hKind : reading.control.kind = .entry)
    (hTold : reading.IsToldBy action)
    (hSettles :
      r.Settles (.typing reading.control.field) action) :
    (r.settle (.typing reading.control.field)
        action).1.Remembers commands
      (recorded ++ [r.settings.sanitise action]) := by
  have hControl :
      reading.control = ⟨reading.control.field, .entry⟩ :=
    Control.ext rfl hKind
  have hOn :
      (r.settings.sanitise action).IsOn reading.control :=
    r.settings.isOn_sanitise.mpr hTold.isOn
  have hSettings :
      (r.settle (.typing reading.control.field)
        action).1.settings = r.settings :=
    (r.keeps_settle _ _).settings
  intro field text hText
  rw [hSettings]
  rw [settle_of_settles hSettles] at hText
  unfold remember at hText
  rw [lastValue?_rememberValue] at hText
  split at hText
  · rename_i hSame
    subst hSame
    cases hText
    rw [← hControl]
    exact ⟨reading, action, hRead, rfl,
      valueText?_of_isToldBy hKind hTold, hTold,
      lastOn_append_singleton recorded hOn⟩
  · rename_i hOther
    have hOld : r.lastValue? field = some text := by
      unfold lastValue? at hText ⊢
      rw [lastValues_record] at hText
      exact hText
    rw [lastOn_append_of_not_isOn recorded ?_]
    · exact hRemembers field text hOld
    · intro a ha hIsOn
      rw [List.mem_singleton.mp ha] at hIsOn
      exact hOther
        (congrArg Control.field (hOn.unique hIsOn))

/- A candidate that was not typed is on no field. -/
theorem Remembers.judge_of_waited_ne
    (hRemembers : r.Remembers commands recorded)
    (hWaited :
      ∀ field, candidate.waited ≠ some (.typing field))
    (hElsewhere :
      ∀ field, ¬ candidate.action.IsOn ⟨field, .entry⟩) :
    (r.judge candidate).1.Remembers commands
      (recorded ++ (r.judge candidate).2.toList) := by
  apply hRemembers.of_not_isOn
    (r.keeps_judge candidate).settings
    (lastValues_judge hWaited)
  intro a ha field hOn
  exact hElsewhere field (isOn_of_mem_judge ha hOn)

theorem Remembers.judge
    (hRemembers : r.Remembers commands recorded)
    (hGenuine : candidate.IsGenuine commands) :
    (r.judge candidate).1.Remembers commands
      (recorded ++ (r.judge candidate).2.toList) := by
  cases hGenuine with
  | silent hSilent =>
      exact hRemembers.judge_of_waited_ne hSilent.waited
        fun field => hSilent.not_isOn _
  | @told reading action hRead hTold =>
      cases hTimer : reading.control.timer? with
      | none =>
          apply hRemembers.judge_of_waited_ne
          · simp
          · intro field hOn
            rw [hTold.isOn.unique hOn] at hTimer
            cases hTimer
      | some key =>
          rcases Control.timer?_eq_some_iff.mp hTimer with
            ⟨hKind, rfl⟩
          unfold Recorder.judge
          dsimp only
          by_cases hSettles :
              r.Settles (.typing reading.control.field) action
          · have hSettle :=
              hRemembers.settle hRead hKind hTold hSettles
            rw [settle_of_settles hSettles] at hSettle ⊢
            exact hSettle
          · rw [settle_of_not_settles hSettles]
            simpa using hRemembers

/- So it is after any number of genuine candidates. -/
theorem Remembers.judgeAll
    (hRemembers : r.Remembers commands recorded)
    (hGenuine :
      ∀ candidate ∈ candidates,
        candidate.IsGenuine commands) :
    (r.judgeAll candidates).1.Remembers commands
      (recorded ++ (r.judgeAll candidates).2) := by
  induction candidates generalizing r recorded with
  | nil => simpa [Recorder.judgeAll] using hRemembers
  | cons candidate candidates ih =>
      have hFirst :=
        hRemembers.judge
          (hGenuine candidate List.mem_cons_self)
      have hRest := ih hFirst fun other hOther =>
        hGenuine other (List.mem_cons_of_mem _ hOther)
      rw [Recorder.judgeAll]
      dsimp only
      rw [← List.append_assoc]
      exact hRest

------------------------------------------------------------
-- Passing Over
------------------------------------------------------------

/- An action on a control is rejected as a duplicate only. -/
theorem exists_of_not_accepts
    (hOn : action.IsOn control)
    (hRejected : ¬ r.Accepts action) :
    ∃ last,
      r.lastRecorded = some last ∧ last.SameTarget action ∧
        last.elapsed action < r.settings.duplicateWindow := by
  have hNavigation : action.isNavigation = false := by
    unfold Action.isNavigation
    rw [hOn.kind]
    cases control.kind <;> rfl
  have hSubmit : action.kind ≠ .submit := by
    rw [hOn.kind]
    cases control.kind <;> decide
  have hAlive : r.isDeadNavigation action = false := by
    unfold isDeadNavigation
    rw [hNavigation]
    rfl
  have hDuplicate : r.isDuplicate action = true := by
    rw [← Bool.not_eq_false]
    exact fun hNew => hRejected ⟨hAlive, hNew⟩
  unfold isDuplicate at hDuplicate
  rw [hNavigation] at hDuplicate
  cases hLast : r.lastRecorded with
  | none =>
      rw [hLast] at hDuplicate
      cases hDuplicate
  | some last =>
      rw [hLast] at hDuplicate
      simp only [isRepeated, hSubmit, decide_false,
        Bool.and_false, Bool.false_or, Bool.not_false,
        Bool.true_and, Bool.and_eq_true,
        decide_eq_true_eq] at hDuplicate
      exact ⟨last, rfl, hDuplicate.2, hDuplicate.1⟩

/-
  Why an action that tells a reading is not recorded: it is a
  duplicate, or its text is what the recorder remembers.
-/
theorem judge_of_isToldBy
    (hPhase : r.phase = .recording)
    (hGenuine : candidate.IsGenuine commands)
    (hTold : reading.IsToldBy candidate.action) :
    (r.judge candidate).2 =
        some (r.settings.sanitise candidate.action) ∨
      (r.judge candidate).2 = none ∧
        ((∃ last,
            r.lastRecorded = some last ∧
              last.SameTarget candidate.action ∧
              last.elapsed candidate.action <
                r.settings.duplicateWindow) ∨
          ∃ text,
            reading.control.kind = .entry ∧
              reading.value = some (.text text) ∧
              r.lastValue? reading.control.field =
                some text) := by
  have hTimer := timer?_of_isOn hGenuine hTold.isOn
  unfold judge
  split
  · rename_i key hKey
    rw [hKey] at hTimer
    rcases Control.timer?_eq_some_iff.mp hTimer with
      ⟨hKind, rfl⟩
    by_cases hSettles :
        r.Settles (.typing reading.control.field)
          candidate.action
    · rw [settle_of_settles hSettles]
      exact Or.inl rfl
    right
    rw [settle_of_not_settles hSettles]
    refine ⟨rfl, ?_⟩
    by_cases hAccepts : r.Accepts candidate.action
    · right
      refine ⟨_, hKind, valueText?_of_isToldBy hKind hTold, ?_⟩
      apply Decidable.byContradiction
      intro hNews
      exact hSettles ⟨hPhase, hNews, hAccepts⟩
    · exact Or.inl (exists_of_not_accepts hTold.isOn hAccepts)
  · by_cases hAccepts : r.Accepts candidate.action
    · rw [record_of_accepts hAccepts]
      exact Or.inl rfl
    · rw [record_of_not_accepts hAccepts]
      exact Or.inr ⟨rfl,
        Or.inl (exists_of_not_accepts hTold.isOn hAccepts)⟩

------------------------------------------------------------
-- The Last Reading
------------------------------------------------------------

/-
  Whether the last candidate on a control is passed over as a
  repetition of the action recorded right before it.
-/
def Repeats
    (r : Recorder)
    (commands : List Command)
    (reading : Reading)
    (seen : Action) : Prop :=
  reading.timestamp - seen.timestamp <
      r.settings.duplicateWindow ∧
    ∃ first candidate rest,
      r.stream commands = first ++ candidate :: rest ∧
        reading.IsToldBy candidate.action ∧
        (∀ other ∈ rest,
          ¬ other.action.IsOn reading.control) ∧
        (r.judgeAll first).2.getLast? = some seen

/- What holds of a recorder that has just begun to record. -/
structure IsFresh (r : Recorder) : Prop where
  phase : r.phase = .recording
  pending : r.timers.pending = []
  lastValues : r.lastValues = []
  lastRecorded :
    ∀ last,
      r.lastRecorded = some last → last.kind ∉ stateKinds

theorem isFresh_start
    (r : Recorder)
    (address : Option String)
    (now : Nat) :
    (r.execute (.start address now)).1.IsFresh := by
  have hBegun : (r.begun address).IsFresh :=
    ⟨rfl, rfl, rfl, fun _ h => nomatch h⟩
  cases address with
  | none => exact hBegun
  | some url =>
      have hAccepts :
          (r.begun (some url)).Accepts
            (Action.navigate url none now) :=
        ⟨rfl, rfl⟩
      rw [execute_start_some, record_of_accepts hAccepts]
      have hKind : Action.Kind.navigate ∉ stateKinds := by
        decide
      refine ⟨rfl, rfl, rfl, ?_⟩
      intro last hLast
      cases hLast
      exact hKind

theorem IsFresh.waitsAs
    {P : Candidate → Prop}
    (hFresh : r.IsFresh) :
    r.WaitsAs P :=
  waits_of_pending_eq_nil hFresh.pending

theorem IsFresh.remembers
    (hFresh : r.IsFresh) :
    r.Remembers commands [] := by
  intro field text hText
  unfold lastValue? at hText
  rw [hFresh.lastValues] at hText
  cases hText

/- What a control repeats was recorded since the beginning. -/
theorem IsFresh.getLast?_judgeAll
    {last : Action}
    (hFresh : r.IsFresh)
    (hLast :
      (r.judgeAll candidates).1.lastRecorded = some last)
    (hOn : last.IsOn control) :
    (r.judgeAll candidates).2.getLast? = some last := by
  rw [lastRecorded_judgeAll] at hLast
  rcases Option.or_eq_some_iff.mp hLast with
    hRecorded | ⟨_, hOld⟩
  · exact hRecorded
  · have hKind := hFresh.lastRecorded last hOld
    rw [hOn.kind] at hKind
    exact absurd control.kind.actionKind_mem hKind

/- What is recorded of candidates elsewhere is elsewhere. -/
theorem not_isOn_of_mem_judgeAll
    (hNone :
      ∀ other ∈ candidates, ¬ other.action.IsOn control) :
    ∀ seen ∈ (r.judgeAll candidates).2,
      ¬ seen.IsOn control := by
  intro seen hSeen hOn
  rcases List.mem_map.mp
      ((r.sublist_judgeAll candidates).subset hSeen) with
    ⟨other, hOther, rfl⟩
  exact hNone other hOther (r.settings.isOn_sanitise.mp hOn)

/-
  What is recorded of a stream on a control is decided when
  the last candidate on it has come up.
-/
theorem lastOn_judgeAll
    {first rest : List Candidate}
    (r : Recorder)
    (hRest : ∀ other ∈ rest, ¬ other.action.IsOn control) :
    lastOn control
        (r.judgeAll (first ++ candidate :: rest)).2 =
      lastOn control
        ((r.judgeAll first).2 ++
          ((r.judgeAll first).1.judge candidate).2.toList) := by
  rw [judgeAll_append, judgeAll]
  dsimp only
  rw [← List.append_assoc]
  exact lastOn_append_of_not_isOn _
    (not_isOn_of_mem_judgeAll hRest)

end Recorder

/-
  Whether a recorded action comes from another reading of the
  same field, with the same text, of which only one is a
  password.
-/
def Reading.IsMistaken
    (settings : Settings)
    (commands : List Command)
    (reading : Reading)
    (seen : Action) : Prop :=
  ∃ (other : Reading) (action : Action),
    other.IsReadBy commands ∧
      other.control = reading.control ∧
      reading.control.kind = .entry ∧
      other.value = reading.value ∧
      other.isPassword ≠ reading.isPassword ∧
      other.IsToldBy action ∧
      seen = settings.sanitise action

/- Readings of one text differ in secrecy, if at all. -/
theorem Reading.IsCarriedBy.of_value
    {other : Reading}
    (hCarried : other.IsCarriedBy settings seen)
    (hControl : other.control = reading.control)
    (hKind : reading.control.kind = .entry)
    (hValue : other.value = reading.value)
    (hPassword : other.isPassword = reading.isPassword) :
    reading.IsCarriedBy settings seen := by
  have hNoBox : reading.control.kind ≠ .box := by
    rw [hKind]
    decide
  have hOther : other.control.kind ≠ .box := by
    rw [hControl]
    exact hNoBox
  constructor
  · rw [← hPassword, ← hValue]
    exact hCarried.value
  · rw [hCarried.checked, other.isUnchecked hOther,
      reading.isUnchecked hNoBox]

namespace Recorder

variable {r : Recorder}
variable {commands : List Command}

/-
  The decision about the last candidate on a control decides
  which action on it is the last one.
-/
theorem exists_last_decision
    (hFresh : r.IsFresh)
    (hCapture : ∀ command ∈ commands, command.IsCapture)
    (hReading : lastReading? control commands = some reading) :
    ∃ first candidate rest,
      r.stream (commands ++ [.flush]) =
          first ++ candidate :: rest ∧
        (∀ other ∈ first, other.IsGenuine commands) ∧
        candidate.IsGenuine commands ∧
        reading.IsToldBy candidate.action ∧
        (∀ other ∈ rest, ¬ other.action.IsOn control) ∧
        lastOn control (r.history (commands ++ [.flush])) =
          lastOn control
            ((r.judgeAll first).2 ++
              ((r.judgeAll first).1.judge
                candidate).2.toList) := by
  rcases exists_last_candidate hFresh.phase hFresh.waitsAs
      hCapture hReading with
    ⟨first, candidate, rest, hStream, hTold, hRest⟩
  have hOngoing :
      ∀ command ∈ commands ++ [Command.flush],
        command.IsOngoing := by
    intro command hCommand
    rcases List.mem_append.mp hCommand with hMem | hFlush
    · exact (hCapture command hMem).isOngoing
    · rw [List.mem_singleton.mp hFlush]
      trivial
  have hHistory :
      r.history (commands ++ [.flush]) =
        (r.judgeAll (first ++ candidate :: rest)).2 := by
    rw [← hStream]
    exact (judges_stream hOngoing).recorded
  have hGenuine :
      ∀ other ∈ first ++ candidate :: rest,
        other.IsGenuine commands := by
    rw [← hStream]
    exact hFresh.waitsAs.forall_mem_stream
      (offers_append_flush (offers_isGenuine _ hCapture))
  refine ⟨first, candidate, rest, hStream, ?_, ?_, hTold,
    hRest, ?_⟩
  · exact fun other hOther =>
      hGenuine other (List.mem_append_left _ hOther)
  · exact hGenuine candidate
      (List.mem_append_right _ List.mem_cons_self)
  · rw [hHistory, r.lastOn_judgeAll hRest]

/-
  The last action on a control carries its last reading,
  unless that reading is passed over. The cases are those of
  the decision about its candidate.
-/
theorem exists_lastOn_of_isFresh
    (hFresh : r.IsFresh)
    (hCapture : ∀ command ∈ commands, command.IsCapture)
    (hReading : lastReading? control commands = some reading) :
    ∃ seen,
      lastOn control (r.history (commands ++ [.flush])) =
          some seen ∧
        (reading.IsCarriedBy r.settings seen ∨
          r.Repeats (commands ++ [.flush]) reading seen ∨
          reading.IsMistaken r.settings commands seen) := by
  rcases exists_of_lastReading?_eq_some hReading with
    ⟨_, _, _, _, _, rfl, _⟩
  rcases exists_last_decision hFresh hCapture hReading with
    ⟨first, candidate, rest, hStream, hFirst, hGenuine,
      hTold, hRest, hLastOn⟩
  have hKeeps := r.keeps_judgeAll first
  have hPhase : (r.judgeAll first).1.phase = .recording :=
    hKeeps.phase.trans hFresh.phase
  rw [hLastOn]
  rcases judge_of_isToldBy hPhase hGenuine hTold with
    hSeen | ⟨hNone, ⟨last, hLast, hSame, hElapsed⟩ |
      ⟨text, hKind, hValue, hText⟩⟩
  · -- The reading is recorded.
    rw [hSeen, hKeeps.settings]
    refine ⟨_, lastOn_append_singleton _ ?_, Or.inl ?_⟩
    · exact (Settings.isOn_sanitise _).mpr hTold.isOn
    · exact hTold.isCarriedBy r.settings
  · -- It is a duplicate.
    have hOn := hTold.isOn.of_sameTarget hSame
    have hEnd := hFresh.getLast?_judgeAll hLast hOn
    rw [hNone, Option.toList_none, List.append_nil]
    refine ⟨last, lastOn_of_getLast? hEnd hOn,
      Or.inr (Or.inl ⟨?_, first, candidate, rest, hStream,
        hTold, hRest, hEnd⟩)⟩
    rw [← hTold.timestamp, ← hKeeps.settings]
    exact hElapsed
  · -- Its text is taken for unchanged.
    have hRemembers := hFresh.remembers.judgeAll hFirst
    rcases hRemembers _ _ hText with
      ⟨other, action, hRead, hControl, hOtherValue,
        hOtherTold, hLast⟩
    have hSameControl : other.control = reading.control := by
      rw [hControl, ← hKind]
    have hSameValue := hOtherValue.trans hValue.symm
    rw [← hControl, hSameControl, hKeeps.settings] at hLast
    rw [hNone, Option.toList_none, List.append_nil]
    refine ⟨_, hLast, ?_⟩
    by_cases hPassword : other.isPassword = reading.isPassword
    · exact Or.inl
        ((hOtherTold.isCarriedBy r.settings).of_value
          hSameControl hKind hSameValue hPassword)
    · exact Or.inr (Or.inr
        ⟨other, action, hRead, hSameControl, hKind,
          hSameValue, hPassword, hOtherTold, rfl⟩)

/-
  In every capture behind a start that ends with a flush, the
  last action on a control that was read carries its last
  reading, unless that repeats the action right before it or
  differs from it only in being a password.
-/
theorem exists_lastOn_of_start
    (r : Recorder)
    (address : Option String)
    (now : Nat)
    (commands : List Command)
    (control : Control)
    (reading : Reading)
    (hCapture : ∀ command ∈ commands, command.IsCapture)
    (hReading : lastReading? control commands = some reading) :
    ∃ seen,
      lastOn control
          (r.history
            (.start address now :: (commands ++ [.flush]))) =
          some seen ∧
        (reading.IsCarriedBy r.settings seen ∨
          (r.execute (.start address now)).1.Repeats
            (commands ++ [.flush]) reading seen ∨
          reading.IsMistaken r.settings commands seen) := by
  have hFresh := r.isFresh_start address now
  rcases exists_lastOn_of_isFresh hFresh hCapture
      hReading with ⟨seen, hSeen, hCarried⟩
  rw [settings_execute] at hCarried
  refine ⟨seen, ?_, hCarried⟩
  rw [history, lastOn_append, hSeen, Option.some_or]

/- A field of some type that holds a text. -/
def filledField (type text : String) : Element where
  tagName := "input"
  attributes :=
    Attributes.ofList [("type", type), ("name", "pin")]
  form := { value := some text }

/- A box that is on or off. -/
def toggledBox (on : Bool) : Element where
  tagName := "input"
  attributes := Attributes.ofList [("type", "checkbox")]
  form := { checked := some on }

/- An input into an element. -/
def inputInto (e : Element) (time : Nat) : Command :=
  .handle ⟨.gesture .input e, time⟩

/- A click on an element. -/
def clickOn (e : Element) (time : Nat) : Command :=
  .handle ⟨.click e 1 0, time⟩

/- The field is known by its name, the box by its tag. -/
def pin : Control :=
  ⟨⟨Selector.name "pin", []⟩, .entry⟩

def box : Control :=
  ⟨⟨Selector.cssPath "input", []⟩, .box⟩

/- Of two texts the later one is the last. -/
theorem exists_lastOn_of_filled :
    (∀ command ∈
        [inputInto (filledField "text" "1") 10,
          inputInto (filledField "text" "12") 20],
      command.IsCapture) ∧
    lastReading? pin
        [inputInto (filledField "text" "1") 10,
          inputInto (filledField "text" "12") 20] =
      some ((filledField "text" "12").reading .entry 20) ∧
    ∃ seen,
      lastOn pin
          ((new {}).history
            (.start none 0 ::
              ([inputInto (filledField "text" "1") 10,
                inputInto (filledField "text" "12") 20] ++
                [.flush]))) =
        some seen ∧
      (((filledField "text" "12").reading .entry 20).IsCarriedBy
          {} seen ∨
        ((new {}).execute (.start none 0)).1.Repeats
          ([inputInto (filledField "text" "1") 10,
            inputInto (filledField "text" "12") 20] ++ [.flush])
          ((filledField "text" "12").reading .entry 20) seen ∨
        ((filledField "text" "12").reading .entry 20).IsMistaken
          {}
          [inputInto (filledField "text" "1") 10,
            inputInto (filledField "text" "12") 20] seen) := by
  have hCapture :
      ∀ command ∈
          [inputInto (filledField "text" "1") 10,
            inputInto (filledField "text" "12") 20],
        command.IsCapture := by
    simp [inputInto, Command.IsCapture]
  have hReading :
      lastReading? pin
          [inputInto (filledField "text" "1") 10,
            inputInto (filledField "text" "12") 20] =
        some ((filledField "text" "12").reading .entry 20) := by
    decide
  exact ⟨hCapture, hReading,
    (new {}).exists_lastOn_of_start none 0 _ pin _ hCapture
      hReading⟩

/-
  The last state is lost where a box is turned off again right
  away, where a later click tells of a change that no event
  does, and where a password field becomes a plain one.
-/
theorem last_state_lost :
    (∃ reading seen,
      lastReading? box
          [inputInto (toggledBox true) 10,
            inputInto (toggledBox false) 110] =
          some reading ∧
        lastOn box
            ((new {}).history
              [.start none 0, inputInto (toggledBox true) 10,
                inputInto (toggledBox false) 110, .flush]) =
          some seen ∧
        ¬ reading.IsCarriedBy {} seen) ∧
    (∃ reading seen,
      lastReading? box [inputInto (toggledBox true) 10] =
          some reading ∧
        lastOn box
            ((new {}).history
              [.start none 0, inputInto (toggledBox true) 10,
                clickOn (toggledBox false) 1000, .flush]) =
          some seen ∧
        ¬ reading.IsCarriedBy {} seen) ∧
    ∃ reading seen,
      lastReading? pin
          [inputInto (filledField "password" "1") 10, .flush,
            inputInto (filledField "text" "1") 5000] =
          some reading ∧
        lastOn pin
            ((new {}).history
              [.start none 0,
                inputInto (filledField "password" "1") 10,
                .flush,
                inputInto (filledField "text" "1") 5000,
                .flush]) =
          some seen ∧
        ¬ reading.IsCarriedBy {} seen := by
  refine ⟨⟨_, _, rfl, rfl, ?_⟩, ⟨_, _, rfl, rfl, ?_⟩,
    ⟨_, _, rfl, rfl, ?_⟩⟩
  · intro hCarried
    cases hCarried.checked
  · intro hCarried
    cases hCarried.checked
  · intro hCarried
    exact absurd hCarried.value (by decide)

end Recorder

end Capture

end Clickstream
