import Mathlib.Data.List.SplitBy
import Clickstream.Plan.Step

/-
  Entries: what a test does for the actions of one page.
  However actions are put together under titles, each of them
  gives its own operations, in the order of the actions.

  Key definitions:
    * `Entry.operations`
    * `Entry.Covers`: what the entry of some actions is
    * `Operation.IsAt`
    * `Step.Course`: all that a step can be

  Key theorems:
    * `Settings.covers_entryFor`
    * `Settings.operations_entries`
    * `Settings.course_of_stepFor`
    * `Settings.isAt_of_stepFor`
-/

namespace Clickstream

------------------------------------------------------------
-- Operations
------------------------------------------------------------

/- The operations of an entry; a remark reads as a note. -/
def Entry.operations : Entry → List Operation
  | .step s => s.operations
  | .skipped reason => [.note ("Skipped: " ++ reason)]

/-
  What the entry of some actions is: a step with what each of
  them does or the note in its place, one after the other, or
  the remark on a single action that is refused.
-/
inductive Entry.Covers (settings : Plan.Settings) :
    List Action → Entry → Prop where
  | step
      {actions : List Action}
      {s : Step}
      (hOperations :
        s.operations =
          actions.flatMap settings.operationsOrNote) :
      Covers settings actions (.step s)
  | skipped
      {action : Action}
      {refusal : Refusal}
      (hStep : settings.stepFor action = .error refusal) :
      Covers settings [action] (.skipped refusal.message)

/-
  Whether an operation is done where an action was done: on
  its element if it has one, and in its frames otherwise.
-/
def Operation.IsAt (action : Action) : Operation → Prop
  | .click t _ | .doubleClick t | .fill t _ | .check t
  | .uncheck t | .selectOption t _ _ | .setInputFiles t _
  | .hover t | .focus t | .blur t | .waitFor t
  | .scrollElement t _ _ | .requestSubmit t =>
      Target.of? action = some t
  | .press t _ => Target.of? action = t
  | .scrollWindow frames _ _ =>
      Target.of? action = none ∧ action.frames = frames
  | .goto url => action.url = some url
  | .mouseDown | .mouseUp | .settleWait _ | .note _ => True

/- Whether a step does everything where an action was done. -/
def Step.IsAt (action : Action) (s : Step) : Prop :=
  ∀ operation ∈ s.operations, operation.IsAt action

/-
  Whether an operation is done to this element, or works the
  button of the mouse once it is there.
-/
def Operation.IsOn (target : Target) : Operation → Prop
  | .click t _ | .doubleClick t | .fill t _ | .check t
  | .uncheck t | .selectOption t _ _ | .setInputFiles t _
  | .hover t | .focus t | .blur t | .waitFor t
  | .scrollElement t _ _ | .requestSubmit t => t = target
  | .press t _ => t = some target
  | .mouseDown | .mouseUp => True
  | .goto _ | .scrollWindow _ _ _ | .settleWait _
  | .note _ => False

/-
  All that the step of an action can be: something on its
  element, an address that is opened, or else what can be done
  without an element.
-/
inductive Step.Course (action : Action) :
    List Operation → Prop where
  | element
      {target : Target}
      {operations : List Operation}
      (hTarget : Target.of? action = some target)
      (hOn : ∀ op ∈ operations, op.IsOn target) :
      Course action operations
  | address
      {url : String}
      (hKind : action.kind = .navigate)
      (hUrl : action.url = some url) :
      Course action [.goto url]
  | key
      {key : String}
      (hKind : action.kind = .keypress)
      (hNone : Target.of? action = none) :
      Course action [.press none key]
  | window
      {x y : Int}
      (hNone : Target.of? action = none) :
      Course action [.scrollWindow action.frames x y]
  | wait
      {ms : Nat}
      (hKind : action.kind = .wait)
      (hNone : Target.of? action = none) :
      Course action [.settleWait ms]

/- What is done to the element of an action is done there. -/
theorem Operation.IsOn.isAt
    {action : Action}
    {target : Target}
    {operation : Operation}
    (hTarget : Target.of? action = some target)
    (hOn : operation.IsOn target) :
    operation.IsAt action := by
  cases operation with
  | goto url => cases hOn
  | scrollWindow frames x y => cases hOn
  | settleWait ms => trivial
  | note text => trivial
  | mouseDown => trivial
  | mouseUp => trivial
  | press t key => exact hTarget.trans hOn.symm
  | _ => exact hTarget.trans (congrArg some hOn.symm)

/- Whatever course a step takes, it is where its action was. -/
theorem Step.Course.isAt
    {action : Action}
    {operations : List Operation}
    (hCourse : Step.Course action operations) :
    ∀ operation ∈ operations, operation.IsAt action := by
  intro operation hOperation
  cases hCourse with
  | element hTarget hOn =>
      exact (hOn operation hOperation).isAt hTarget
  | address hKind hUrl =>
      rw [List.mem_singleton.mp hOperation]
      exact hUrl
  | key hKind hNone =>
      rw [List.mem_singleton.mp hOperation]
      exact hNone
  | window hNone =>
      rw [List.mem_singleton.mp hOperation]
      exact ⟨hNone, rfl⟩
  | wait hKind hNone =>
      rw [List.mem_singleton.mp hOperation]
      trivial

namespace Plan

variable {settings : Settings}
variable {action first : Action}
variable {others : List Action}

------------------------------------------------------------
-- Segments
------------------------------------------------------------

theorem operationsOrNote_of_ok
    {step : Step}
    (hStep : settings.stepFor action = .ok step) :
    settings.operationsOrNote action = step.operations := by
  unfold Settings.operationsOrNote
  rw [hStep]

theorem operationsOrNote_of_error
    {refusal : Refusal}
    (hStep : settings.stepFor action = .error refusal) :
    settings.operationsOrNote action =
      [.note refusal.remark] := by
  unfold Settings.operationsOrNote
  rw [hStep]

/- Typing into nothing is refused for want of a selector. -/
theorem stepFor_of_target_error
    {refusal : Refusal}
    (hKind : action.kind = .type)
    (hTarget : target action = .error refusal) :
    settings.stepFor action = .error refusal := by
  unfold Settings.stepFor
  rw [hKind]
  dsimp only [typeStep]
  rw [hTarget]
  rfl

/- A burst of typing has an element to type into. -/
theorem exists_target_of_isSameField
    {second : Action}
    (hSame : isSameField first second = true) :
    ∃ t, target first = .ok t := by
  have hSelector : first.selector.isSome = true := by
    simp only [isSameField, Bool.and_eq_true] at hSame
    exact hSame.1.1.2
  rcases Option.isSome_iff_exists.mp hSelector with
    ⟨selector, hSelector⟩
  unfold target Target.of?
  rw [hSelector]
  exact ⟨_, rfl⟩

/- A single action is covered by its step or its remark. -/
theorem Settings.covers_singleEntry
    (settings : Settings)
    (action : Action) :
    Entry.Covers settings [action]
      (settings.singleEntry action) := by
  unfold Settings.singleEntry
  cases hStep : settings.stepFor action with
  | error refusal => exact .skipped hStep
  | ok step =>
      refine .step ?_
      rw [List.flatMap_singleton, operationsOrNote_of_ok hStep]

/-
  The entry of a segment covers its actions. That a segment
  without an element is refused as a whole loses nothing,
  because it is a single action.
-/
theorem Settings.covers_entryFor
    (hChain :
      (first :: others).IsChain
        (fun a b => isSameField a b = true)) :
    Entry.Covers settings (first :: others)
      (settings.entryFor first others) := by
  unfold Settings.entryFor
  split
  · rename_i hTyping
    unfold Settings.typingEntry
    cases hTarget : target first with
    | ok t => exact .step rfl
    | error refusal =>
        cases others with
        | cons second rest =>
            have hSame := hChain.rel
            rcases exists_target_of_isSameField hSame with
              ⟨t, hSome⟩
            rw [hSome] at hTarget
            cases hTarget
        | nil =>
            have hKind : first.kind = .type :=
              hTyping.resolve_left (fun h => h rfl)
            exact .skipped
              (stepFor_of_target_error hKind hTarget)
  · rename_i hSingle
    have hOthers : others = [] := by
      by_contra hSome
      exact hSingle (Or.inl hSome)
    rw [hOthers]
    exact settings.covers_singleEntry first

/- What covers actions has the operations of each of them. -/
theorem operations_of_covers
    {actions : List Action}
    {entry : Entry}
    (hCovers : Entry.Covers settings actions entry) :
    entry.operations =
      actions.flatMap settings.operationsOrNote := by
  cases hCovers with
  | step hOperations => exact hOperations
  | skipped hStep =>
      rw [List.flatMap_singleton,
        operationsOrNote_of_error hStep]
      rfl

/- The entries of a page have the operations of its actions. -/
theorem Settings.operations_entries
    (settings : Settings)
    (actions : List Action) :
    (settings.entries actions).flatMap Entry.operations =
      actions.flatMap settings.operationsOrNote := by
  have hSegment :
      ∀ segment ∈ segments actions,
        (settings.segmentEntry? segment).toList.flatMap
            Entry.operations =
          segment.flatMap settings.operationsOrNote := by
    intro segment hSegment
    have hChain := List.isChain_of_mem_splitBy hSegment
    cases segment with
    | nil => rfl
    | cons first others =>
        unfold Settings.segmentEntry?
        rw [Option.toList_some, List.flatMap_singleton]
        exact operations_of_covers
          (Settings.covers_entryFor hChain)
  calc (settings.entries actions).flatMap Entry.operations
      = (segments actions).flatMap (fun segment =>
          (settings.segmentEntry? segment).toList.flatMap
            Entry.operations) := by
        unfold Settings.entries
        rw [List.filterMap_eq_flatMap_toList,
          List.flatMap_assoc]
    _ = (segments actions).flatMap (fun segment =>
          segment.flatMap settings.operationsOrNote) :=
        List.flatMap_congr hSegment
    _ = (segments actions).flatten.flatMap
          settings.operationsOrNote := by
        rw [← List.flatMap_assoc, List.flatMap_id']
    _ = actions.flatMap settings.operationsOrNote := by
        unfold segments
        rw [List.flatten_splitBy]

------------------------------------------------------------
-- Courses
------------------------------------------------------------

variable {step : Step}

/- A step that needs an element is made of the element. -/
theorem exists_target_of_bind
    {stepFor : Target → Except Refusal Step}
    (hStep : target action >>= stepFor = .ok step) :
    ∃ t, Target.of? action = some t ∧ stepFor t = .ok step := by
  unfold target at hStep
  cases hTarget : Target.of? action with
  | none =>
      rw [hTarget] at hStep
      cases hStep
  | some t =>
      rw [hTarget] at hStep
      exact ⟨t, rfl, hStep⟩

/- Such a step is something on its element. -/
theorem course_of_bind_target
    {stepFor : Target → Except Refusal Step}
    (hStep : target action >>= stepFor = .ok step)
    (hOn :
      ∀ t, stepFor t = .ok step →
        ∀ op ∈ step.operations, op.IsOn t) :
    Step.Course action step.operations := by
  rcases exists_target_of_bind hStep with ⟨t, hTarget, hOk⟩
  exact .element hTarget (hOn t hOk)

theorem course_of_stepOn
    {verb : String}
    {operation : Target → Operation}
    (hStep : stepOn verb operation action = .ok step)
    (hOn : ∀ t, (operation t).IsOn t) :
    Step.Course action step.operations := by
  apply course_of_bind_target hStep
  intro t hOk
  cases hOk
  exact List.forall_mem_singleton.mpr (hOn t)

theorem course_of_typeStep
    (hStep : typeStep action = .ok step) :
    Step.Course action step.operations := by
  apply course_of_bind_target hStep
  intro t hOk
  cases hOk
  exact List.forall_mem_singleton.mpr rfl

theorem course_of_checkStep
    (hStep : checkStep action = .ok step) :
    Step.Course action step.operations := by
  unfold checkStep at hStep
  split at hStep
  · exact course_of_stepOn hStep fun _ => rfl
  · exact course_of_stepOn hStep fun _ => rfl

theorem course_of_selectStep
    (hStep : selectStep action = .ok step) :
    Step.Course action step.operations := by
  apply course_of_bind_target hStep
  intro t hOk
  dsimp only at hOk
  split at hOk
  · cases hOk
  · cases hOk
    exact List.forall_mem_singleton.mpr rfl

theorem course_of_uploadStep
    (hStep : uploadStep action = .ok step) :
    Step.Course action step.operations := by
  apply course_of_bind_target hStep
  intro t hOk
  dsimp only at hOk
  split at hOk
  · cases hOk
  · cases hOk
    exact List.forall_mem_singleton.mpr rfl

theorem course_of_navigateStep
    (hKind : action.kind = .navigate)
    (hStep : navigateStep action = .ok step) :
    Step.Course action step.operations := by
  unfold navigateStep at hStep
  split at hStep
  · rename_i url hUrl
    cases hStep
    exact .address hKind hUrl
  · cases hStep

/- A key is pressed on the element, if there is one. -/
theorem course_of_keyStep
    (hKind : action.kind = .keypress)
    (hStep : keyStep action = .ok step) :
    Step.Course action step.operations := by
  unfold keyStep at hStep
  split at hStep
  · cases hStep
  · cases hStep
    dsimp only
    cases hTarget : Target.of? action with
    | none => exact .key hKind hTarget
    | some t =>
        exact .element hTarget
          (List.forall_mem_singleton.mpr rfl)

theorem course_scrollStep (action : Action) :
    Step.Course action (scrollStep action).operations := by
  unfold scrollStep
  dsimp only
  split
  · rename_i t hTarget
    exact .element hTarget (List.forall_mem_singleton.mpr rfl)
  · rename_i hTarget
    exact .window hTarget

theorem course_waitStep
    (settings : Settings)
    (hKind : action.kind = .wait) :
    Step.Course action
      (waitStep settings action).operations := by
  unfold waitStep
  split
  · rename_i t hTarget
    exact .element hTarget (List.forall_mem_singleton.mpr rfl)
  · rename_i hTarget
    exact .wait hKind hTarget

theorem course_of_dragStep
    {verb : String}
    {button : Operation}
    (hStep : dragStep verb button action = .ok step)
    (hButton : ∀ t, button.IsOn t) :
    Step.Course action step.operations := by
  apply course_of_bind_target hStep
  intro t hOk
  cases hOk
  intro operation hOperation
  rcases List.mem_pair.mp hOperation with rfl | rfl
  · rfl
  · exact hButton t

theorem course_of_submitStep
    (hStep : submitStep action = .ok step) :
    Step.Course action step.operations := by
  apply course_of_bind_target hStep
  intro t hOk
  cases hOk
  refine List.forall_mem_singleton.mpr ?_
  split
  · rfl
  · rfl

/- Every step takes one of the courses. -/
theorem Settings.course_of_stepFor
    (hStep : settings.stepFor action = .ok step) :
    Step.Course action step.operations := by
  unfold Settings.stepFor at hStep
  cases hKind : action.kind with
  | type =>
      rw [hKind] at hStep
      exact course_of_typeStep hStep
  | check =>
      rw [hKind] at hStep
      exact course_of_checkStep hStep
  | select =>
      rw [hKind] at hStep
      exact course_of_selectStep hStep
  | upload =>
      rw [hKind] at hStep
      exact course_of_uploadStep hStep
  | navigate =>
      rw [hKind] at hStep
      exact course_of_navigateStep hKind hStep
  | keypress =>
      rw [hKind] at hStep
      exact course_of_keyStep hKind hStep
  | scroll =>
      rw [hKind] at hStep
      rw [← Except.ok.inj hStep]
      exact course_scrollStep action
  | wait =>
      rw [hKind] at hStep
      rw [← Except.ok.inj hStep]
      exact course_waitStep settings hKind
  | dragStart =>
      rw [hKind] at hStep
      exact course_of_dragStep hStep fun _ => trivial
  | drop =>
      rw [hKind] at hStep
      exact course_of_dragStep hStep fun _ => trivial
  | submit =>
      rw [hKind] at hStep
      exact course_of_submitStep hStep
  | other name =>
      rw [hKind] at hStep
      cases hStep
  | _ =>
      -- What is left is one operation on the element.
      rw [hKind] at hStep
      exact course_of_stepOn hStep fun _ => rfl

/- Every step is done where its action was done. -/
theorem Settings.isAt_of_stepFor
    (hStep : settings.stepFor action = .ok step) :
    step.IsAt action :=
  (course_of_stepFor hStep).isAt

end Plan

end Clickstream
