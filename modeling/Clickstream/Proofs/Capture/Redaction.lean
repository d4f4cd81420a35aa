import Clickstream.Proofs.Capture.Run
import Clickstream.Proofs.Capture.Password

/-
  Redaction: what recorded actions show of passwords. Actions
  made of events show nothing of them. An action that was made
  elsewhere shows its password just if it comes as a list.

  Key definitions:
    * `Action.IsRedacted`
    * `Action.IsListed`, `Action.IsRedactable`
    * `Verdict.Only`
    * `Recorder.AppendsPasswordList`

  Key theorems:
    * `Settings.isRedacted_sanitise_iff`
    * `isRedactable_interpret`
    * `Recorder.isRedacted_of_mem_recorded`
    * `Recorder.isRedacted_answers_iff`
-/

namespace Clickstream

------------------------------------------------------------
-- Redacted Actions
------------------------------------------------------------

namespace Action

/-
  Whether an action shows nothing of a password: it has no
  text, and its value is missing, a flag, or the marker.
-/
structure IsRedacted (marker : String) (a : Action) : Prop where
  text : a.text = none
  value :
    a.value = none ∨ (∃ on, a.value = some (.flag on)) ∨
      a.value = some (.text marker)

/- Whether the value of an action is a list. -/
def IsListed (a : Action) : Prop :=
  ∃ items, a.value = some (.list items)

/- Whether sanitising hides the password of an action. -/
def IsRedactable (a : Action) : Prop :=
  a.isPassword = true → ¬ a.IsListed

/- An action of another kind of control has no password. -/
theorem IsRedactable.of_inputType
    {a : Action}
    (hType : a.inputType = none) :
    a.IsRedactable := by
  intro hPassword
  unfold isPassword at hPassword
  rw [hType] at hPassword
  cases hPassword

/- An action without a value is no list. -/
theorem IsRedactable.of_value
    {a : Action}
    (hValue : a.value = none) :
    a.IsRedactable := by
  rintro _ ⟨items, hItems⟩
  rw [hValue] at hItems
  cases hItems

end Action

namespace Capture

/- Sanitising does not change what an action is about. -/
theorem Settings.isPassword_sanitise
    (settings : Settings)
    (a : Action) :
    (settings.sanitise a).isPassword = a.isPassword :=
  rfl

/-
  Sanitising leaves a list of texts a list, even where it is
  the value of a password field.
-/
theorem Settings.isRedacted_sanitise_iff
    (settings : Settings)
    {a : Action}
    (hPassword : a.isPassword = true) :
    (settings.sanitise a).IsRedacted settings.marker ↔
      ¬ a.IsListed := by
  have hValue :
      (settings.sanitise a).value =
        a.value.map
          (settings.sanitiseValue true (a.kind = .upload)) := by
    unfold Settings.sanitise
    rw [hPassword]
  constructor
  · rintro hRedacted ⟨items, hItems⟩
    have hShown := hRedacted.value
    rw [hValue, hItems] at hShown
    rcases hShown with hNone | ⟨on, hFlag⟩ | hText
    · cases hNone
    · cases hFlag
    · cases hText
  · intro hListed
    refine ⟨?_, ?_⟩
    · unfold Settings.sanitise
      rw [if_pos hPassword]
    · rw [hValue]
      cases hOld : a.value with
      | none => exact Or.inl rfl
      | some value =>
          cases value with
          | text t => exact Or.inr (Or.inr rfl)
          | list items => exact absurd ⟨items, hOld⟩ hListed
          | flag on => exact Or.inr (Or.inl ⟨on, rfl⟩)

------------------------------------------------------------
-- Events
------------------------------------------------------------

/- What holds of the action of a verdict, if there is one. -/
def Verdict.Only (P : Action → Prop) : Verdict → Prop
  | .ignore => True
  | .record action => P action
  | .settle _ _ action => P action

theorem Verdict.only_ite
    {P : Action → Prop}
    {c : Prop}
    [Decidable c]
    {v w : Verdict}
    (hv : v.Only P)
    (hw : w.Only P) :
    (if c then v else w).Only P := by
  split
  · exact hv
  · exact hw

theorem Verdict.Only.of_record
    {P : Action → Prop}
    {verdict : Verdict}
    {action : Action}
    (hOnly : verdict.Only P)
    (hVerdict : verdict = .record action) :
    P action := by
  rw [hVerdict] at hOnly
  exact hOnly

theorem Verdict.Only.of_settle
    {P : Action → Prop}
    {verdict : Verdict}
    {key : TimerKey}
    {deadline : Nat}
    {action : Action}
    (hOnly : verdict.Only P)
    (hVerdict : verdict = .settle key deadline action) :
    P action := by
  rw [hVerdict] at hOnly
  exact hOnly

end Capture

/- The value of an input for passwords is never a list. -/
theorem Element.isRedactable_action
    (e : Element)
    (kind : Action.Kind)
    (timestamp : Nat) :
    (e.action kind timestamp).IsRedactable := by
  intro hPassword
  rw [isPassword_action] at hPassword
  rintro ⟨items, hItems⟩
  have hValue :
      (e.action kind timestamp).value = e.formText? :=
    currentValue?_of_isPassword hPassword
  rw [hValue] at hItems
  rcases Option.map_eq_some_iff.mp hItems with ⟨_, _, hText⟩
  cases hText

namespace Capture

/- A missing value gives way to a text, not to a list. -/
theorem isRedactable_withSomeValue
    {a : Action}
    (hRedactable : a.IsRedactable) :
    (withSomeValue a).IsRedactable := by
  intro hPassword
  rintro ⟨items, hItems⟩
  cases hValue : a.value with
  | none =>
      unfold withSomeValue at hItems
      rw [hValue] at hItems
      cases hItems
  | some value =>
      unfold withSomeValue at hItems
      rw [hValue] at hItems
      exact hRedactable hPassword ⟨items, hValue.trans hItems⟩

theorem isRedactable_interpretClick
    (e : Element)
    (clicks button timestamp : Nat) :
    (interpretClick e clicks button timestamp).Only
      Action.IsRedactable := by
  have hAction :=
    e.isRedactable_action (clickKind e clicks button)
      timestamp
  unfold interpretClick
  exact Verdict.only_ite trivial
    (Verdict.only_ite trivial hAction)

theorem isRedactable_interpretChange
    (settings : Settings)
    (e : Element)
    (timestamp : Nat) :
    (settings.interpretChange e timestamp).Only
      Action.IsRedactable := by
  have hAction := fun kind =>
    e.isRedactable_action kind timestamp
  have hTyped := isRedactable_withSomeValue (hAction .type)
  unfold Settings.interpretChange
  exact Verdict.only_ite trivial
    (Verdict.only_ite (hAction .select)
      (Verdict.only_ite (hAction .check)
        (Verdict.only_ite (hAction .upload)
          (Verdict.only_ite hTyped trivial))))

theorem isRedactable_interpretGesture
    (settings : Settings)
    (gesture : Gesture)
    (e : Element)
    (timestamp : Nat) :
    (settings.interpretGesture gesture e timestamp).Only
      Action.IsRedactable := by
  have hAction := fun kind =>
    e.isRedactable_action kind timestamp
  cases gesture with
  | contextMenu =>
      exact isRedactable_interpretClick e 1 2 timestamp
  | input =>
      exact isRedactable_interpretChange settings e timestamp
  | change =>
      exact isRedactable_interpretChange settings e timestamp
  | focus => exact Verdict.only_ite (hAction .focus) trivial
  | blur => exact Verdict.only_ite (hAction .blur) trivial
  | mouseOver =>
      exact Verdict.only_ite trivial (hAction .hover)
  | submit => exact Action.IsRedactable.of_value rfl
  | dragStart => exact Action.IsRedactable.of_value rfl
  | drop => exact Action.IsRedactable.of_value rfl

/-
  Whatever an event means, sanitising hides its password. Only
  the value of a list to choose from can be a list.
-/
theorem isRedactable_interpret
    (settings : Settings)
    (location : Option String)
    (event : Event) :
    (settings.interpret location event).Only
      Action.IsRedactable := by
  unfold Settings.interpret
  cases event.occurrence with
  | gesture gesture e =>
      exact isRedactable_interpretGesture settings gesture e _
  | click e clicks button =>
      exact isRedactable_interpretClick e clicks button _
  | keyDown e key modifiers =>
      exact Verdict.only_ite (Action.IsRedactable.of_value rfl)
        trivial
  | scroll target x y =>
      exact Action.IsRedactable.of_value
        (value_scrollDraft target event.timestamp)
  | mutation address =>
      exact Verdict.only_ite trivial
        (Action.IsRedactable.of_inputType rfl)
  | unload address =>
      exact Action.IsRedactable.of_inputType rfl

------------------------------------------------------------
-- Runs
------------------------------------------------------------

/- Commands let nothing wait but redactable actions. -/
theorem Command.schedules_isRedactable
    (settings : Settings)
    (command : Command) :
    command.Schedules settings
      (fun _ action => action.IsRedactable) := by
  cases command with
  | handle event =>
      intro location key deadline action hVerdict
      have hOnly :=
        isRedactable_interpret settings location
          event.normalise
      exact hOnly.of_settle hVerdict
  | _ => trivial

namespace Recorder

variable {r : Recorder}

/- Whether all that waits is redactable. -/
def WaitsRedactable (r : Recorder) : Prop :=
  r.Waits fun _ action => action.IsRedactable

theorem waitsRedactable_after
    (settings : Settings)
    (commands : List Command) :
    ((new settings).after commands).WaitsRedactable :=
  (waits_new settings).after fun command _ =>
    command.schedules_isRedactable settings

/-
  What a command records of passwords is redacted, unless it
  appends a password that is a list.
-/
theorem isRedacted_of_mem_recorded
    {command : Command}
    {seen : Action}
    (hWaits : r.WaitsRedactable)
    (hCommand :
      ∀ action, command = .append action →
        r.phase = .recording → r.flush.1.Accepts action →
          action.IsRedactable)
    (hSeen : seen ∈ r.recorded command)
    (hPassword : seen.isPassword = true) :
    seen.IsRedacted r.settings.marker := by
  rcases source_of_mem_recorded hSeen with
    ⟨action, hSource, rfl⟩
  have hRedactable : action.IsRedactable := by
    cases hSource with
    | started url now =>
        exact Action.IsRedactable.of_inputType rfl
    | waited _ hp => exact hWaits _ hp
    | happened hVerdict =>
        rename_i event location
        have hOnly :=
          isRedactable_interpret r.settings location
            event.normalise
        exact hOnly.of_record hVerdict
    | appended hPhase hAccepts =>
        exact hCommand action rfl hPhase hAccepts
  rw [Settings.isPassword_sanitise] at hPassword
  exact (r.settings.isRedacted_sanitise_iff hPassword).mpr
    (hRedactable hPassword)

/-
  Whether a run appends a password as a list, at a time when
  the action is recorded.
-/
def AppendsPasswordList
    (r : Recorder)
    (commands : List Command) : Prop :=
  ∃ before action rest,
    commands = before ++ .append action :: rest ∧
      action.isPassword = true ∧ action.IsListed ∧
        (r.after before).phase = .recording ∧
          (r.after before).flush.1.Accepts action

/-
  A run of a new recorder shows nothing of passwords, just if
  it appends none as a list.
-/
theorem isRedacted_answers_iff
    (settings : Settings)
    (commands : List Command) :
    (∀ answer ∈ (new settings).answers commands,
        ∀ action ∈ answer.recorded.getD [],
          action.isPassword = true →
            action.IsRedacted settings.marker) ↔
      ¬ (new settings).AppendsPasswordList commands := by
  have hSettings :
      ∀ before,
        ((new settings).after before).settings = settings :=
    settings_after (new settings)
  constructor
  · rintro hRedacted
      ⟨before, action, rest, rfl, hPassword, hListed, hPhase,
        hAccepts⟩
    have hSeen := mem_recorded_append hPhase hAccepts
    rw [hSettings] at hSeen
    have hAnswer :
        ((new settings).after before).answer
            (.append action) ∈
          (new settings).answers
            (before ++ .append action :: rest) :=
      mem_answers_iff.mpr ⟨before, _, rest, rfl, rfl⟩
    have hShown :=
      hRedacted _ hAnswer (settings.sanitise action) hSeen
        hPassword
    exact (settings.isRedacted_sanitise_iff hPassword).mp
      hShown hListed
  · intro hNone answer hAnswer action hAction hPassword
    rcases mem_answers_iff.mp hAnswer with
      ⟨before, command, rest, hRun, rfl⟩
    have hWaits := waitsRedactable_after settings before
    have hShown :=
      isRedacted_of_mem_recorded hWaits ?_ hAction hPassword
    · rw [hSettings] at hShown
      exact hShown
    · intro appended hAppend hPhase hAccepts hPassword hListed
      subst hAppend
      exact hNone
        ⟨before, appended, rest, hRun, hPassword, hListed,
          hPhase, hAccepts⟩

/- A password that is appended as a list is shown. -/
theorem password_list_shown :
    ∃ answer ∈
        (new {}).answers
          [.start none 0,
            .append
              { kind := .type
                inputType := some "password"
                value := some (.list ["hunter2"]) }],
      ∃ action ∈ answer.recorded.getD [],
        action.isPassword = true ∧
          action.value = some (.list ["hunter2"]) ∧
            ¬ action.IsRedacted "***" := by
  refine ⟨_, List.mem_cons_of_mem _ List.mem_cons_self, _,
    List.mem_cons_self, rfl, rfl, ?_⟩
  rintro ⟨_, hNone | ⟨_, hFlag⟩ | hText⟩
  · cases hNone
  · cases hFlag
  · cases hText

end Recorder

end Capture

end Clickstream
