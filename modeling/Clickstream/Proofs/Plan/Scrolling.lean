import Clickstream.Proofs.Plan.Deeds
import Clickstream.Proofs.Plan.Sieving

/-
  Scrolling: where a test scrolls to. It goes where the
  scrolls of the cleaned recording went, one after the other,
  and nowhere else.

  Key definitions:
    * `Operation.scroll?`
    * `Plan.scrolled`: where a test scrolls to
    * `Plan.StaysPut`: a step that scrolls nowhere

  Key theorems:
    * `staysPut_of_stepFor`
    * `filterMap_scroll?_deedsOf`
    * `scrolled_build`
-/

namespace Clickstream

/- Where an operation scrolls to, if it scrolls. -/
def Operation.scroll? : Operation → Option (Int × Int)
  | .scrollElement _ x y => some (x, y)
  | .scrollWindow _ x y => some (x, y)
  | _ => none

namespace Plan

/- Where a test scrolls to, one place after the other. -/
def scrolled (plan : Plan) : List (Int × Int) :=
  plan.operations.filterMap Operation.scroll?

variable {settings : Settings}
variable {action : Action}
variable {step : Step}

------------------------------------------------------------
-- Steps
------------------------------------------------------------

/- Whether a step scrolls nowhere. -/
def StaysPut (step : Step) : Prop :=
  ∀ op ∈ step.operations, op.scroll? = none

theorem staysPut_singleton
    {title : String}
    {operation : Operation}
    (hNone : operation.scroll? = none) :
    StaysPut ⟨title, [operation]⟩ :=
  List.forall_mem_singleton.mpr hNone

theorem staysPut_of_stepOn
    {verb : String}
    {operation : Target → Operation}
    (hStep : stepOn verb operation action = .ok step)
    (hNone : ∀ t, (operation t).scroll? = none) :
    StaysPut step := by
  rcases exists_target_of_bind hStep with ⟨t, _, hOk⟩
  cases hOk
  exact staysPut_singleton (hNone t)

theorem staysPut_of_dragStep
    {verb : String}
    {button : Operation}
    (hStep : dragStep verb button action = .ok step)
    (hNone : button.scroll? = none) :
    StaysPut step := by
  rcases exists_target_of_bind hStep with ⟨t, _, hOk⟩
  cases hOk
  exact List.forall_mem_cons.mpr
    ⟨rfl, List.forall_mem_singleton.mpr hNone⟩

/- Only the step of a scroll scrolls. -/
theorem staysPut_of_stepFor
    (hKind : action.kind ≠ .scroll)
    (hStep : settings.stepFor action = .ok step) :
    StaysPut step := by
  unfold Settings.stepFor at hStep
  cases hCase : action.kind with
  | scroll => exact absurd hCase hKind
  | type =>
      rw [hCase] at hStep
      rcases exists_target_of_bind hStep with ⟨t, _, hOk⟩
      cases hOk
      exact staysPut_singleton rfl
  | check =>
      rw [hCase] at hStep
      dsimp only [checkStep] at hStep
      split at hStep
      · exact staysPut_of_stepOn hStep fun _ => rfl
      · exact staysPut_of_stepOn hStep fun _ => rfl
  | select =>
      rw [hCase] at hStep
      rcases exists_target_of_bind hStep with ⟨t, _, hOk⟩
      dsimp only at hOk
      split at hOk
      · cases hOk
      · cases hOk
        exact staysPut_singleton rfl
  | upload =>
      rw [hCase] at hStep
      rcases exists_target_of_bind hStep with ⟨t, _, hOk⟩
      dsimp only at hOk
      split at hOk
      · cases hOk
      · cases hOk
        exact staysPut_singleton rfl
  | navigate =>
      rw [hCase] at hStep
      dsimp only [navigateStep] at hStep
      split at hStep
      · cases hStep
        exact staysPut_singleton rfl
      · cases hStep
  | keypress =>
      rw [hCase] at hStep
      dsimp only [keyStep] at hStep
      split at hStep
      · cases hStep
      · cases hStep
        exact staysPut_singleton rfl
  | wait =>
      rw [hCase] at hStep
      rw [← Except.ok.inj hStep]
      unfold waitStep
      split <;> exact staysPut_singleton rfl
  | dragStart =>
      rw [hCase] at hStep
      exact staysPut_of_dragStep hStep rfl
  | drop =>
      rw [hCase] at hStep
      exact staysPut_of_dragStep hStep rfl
  | submit =>
      rw [hCase] at hStep
      rcases exists_target_of_bind hStep with ⟨t, _, hOk⟩
      cases hOk
      apply staysPut_singleton
      split <;> rfl
  | other name =>
      rw [hCase] at hStep
      cases hStep
  | _ =>
      -- What is left is one operation on the element.
      rw [hCase] at hStep
      exact staysPut_of_stepOn hStep fun _ => rfl

theorem filterMap_scroll?_eq_nil
    {operations : List Operation}
    (hNone : ∀ op ∈ operations, op.scroll? = none) :
    operations.filterMap Operation.scroll? = [] :=
  List.filterMap_eq_nil_iff.mpr hNone

/- Waiting scrolls nowhere. -/
theorem filterMap_scroll?_deeds
    (operations : List Operation) :
    (Operation.deeds operations).filterMap
        Operation.scroll? =
      operations.filterMap Operation.scroll? := by
  unfold Operation.deeds
  rw [List.filterMap_filter]
  apply List.filterMap_congr
  intro operation _
  cases operation <;> rfl

/- A scroll is planned as a scroll to the same place. -/
theorem filterMap_scroll?_scrollStep (action : Action) :
    (scrollStep action).operations.filterMap
        Operation.scroll? = [action.position] := by
  unfold scrollStep
  dsimp only
  split <;> rfl

------------------------------------------------------------
-- Plans
------------------------------------------------------------

/- An action scrolls just if it is a scroll. -/
theorem filterMap_scroll?_deedsOf
    (settings : Settings)
    (action : Action) :
    (settings.deedsOf action).filterMap Operation.scroll? =
      scrolls [action] := by
  by_cases hKind : action.kind = .scroll
  · have hNone : action.address? = none := by
      unfold Action.address? Action.isNavigation
      rw [hKind]
      rfl
    have hStep :
        settings.stepFor action = .ok (scrollStep action) := by
      unfold Settings.stepFor
      rw [hKind]
    rw [deedsOf_of_none hNone, operationsOrNote_of_ok hStep,
      filterMap_scroll?_deeds, filterMap_scroll?_scrollStep,
      scrolls_cons_of_scroll hKind]
    rfl
  · rw [scrolls_cons_of_not_scroll hKind]
    apply filterMap_scroll?_eq_nil
    unfold Settings.deedsOf
    split
    · exact List.forall_mem_singleton.mpr rfl
    · split
      · rename_i step hStep
        intro operation hOperation
        exact staysPut_of_stepFor hKind hStep operation
          (List.mem_filter.mp hOperation).1
      · exact List.forall_mem_singleton.mpr rfl

theorem filterMap_scroll?_flatMap
    (settings : Settings)
    (actions : List Action) :
    (actions.flatMap settings.deedsOf).filterMap
        Operation.scroll? =
      scrolls actions := by
  induction actions with
  | nil => rfl
  | cons action rest ih =>
      have hCons :
          scrolls (action :: rest) =
            scrolls [action] ++ scrolls rest := by
        unfold scrolls
        rw [← List.map_append, ← List.filter_append]
        rfl
      rw [List.flatMap_cons, List.filterMap_append, ih,
        filterMap_scroll?_deedsOf, hCons]

/-
  A test scrolls where the scrolls of the cleaned recording
  went.
-/
theorem scrolled_build
    (settings : Settings)
    (fallback : Option String)
    (actions : List Action) :
    (build settings fallback actions).scrolled =
      scrolls (clean settings actions) := by
  have hDeeds :
      (build settings fallback actions).scrolled =
        (build settings fallback actions).deeds.filterMap
          Operation.scroll? :=
    (filterMap_scroll?_deeds _).symm
  have hGoto :
      ∀ url : Option String,
        (url.toList.map Operation.goto).filterMap
          Operation.scroll? = [] := by
    intro url
    cases url <;> rfl
  rw [hDeeds, deeds_build_eq_append, List.filterMap_append,
    hGoto, List.nil_append]
  cases hClean : clean settings actions with
  | nil => rfl
  | cons first rest =>
      rcases address?_of_clean_eq_cons hClean with
        ⟨url, hAddress⟩
      have hMoves := moves_clean settings actions
      rw [hClean] at hMoves
      have hRest := ((moves_cons_of_some hAddress).mp hMoves).2
      have hSplit :
          Page.split (first :: rest) =
            Page.splitAt url rest := by
        unfold Page.split
        rw [hAddress]
      have hKind : first.kind ≠ .scroll := by
        rw [(kind_of_address?_eq_some hAddress).1]
        decide
      rw [hSplit, entriesDeeds_splitAt hRest,
        filterMap_scroll?_flatMap,
        scrolls_cons_of_not_scroll hKind]

end Plan

end Clickstream
