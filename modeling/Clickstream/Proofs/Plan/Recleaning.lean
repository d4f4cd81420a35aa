import Mathlib.Data.List.Chain
import Clickstream.Proofs.Plan.Sieving

/-
  Cleaning again: what becomes of a recording that is clean
  already. Repetitions, hovers and idle navigations are gone
  for good, but a scroll may be measured from elsewhere: the
  first cleaning also measures from scrolls that it drops as
  repetitions, and a second one has not seen them.

  Key definitions:
    * `Settings.Strides`

  Key theorems:
    * `Sieve.keep_keep_iff`
    * `prefilter_prefilter_iff`
    * `Sieve.strides_keep`
    * `prefilter_prefilter_of_not_isRepeated`
-/

namespace Clickstream

namespace Plan

/-
  Whether each scroll goes far away from where the one before
  it went; the first one starts from a given position.
-/
def Settings.Strides
    (settings : Settings)
    (position : Int × Int)
    (actions : List Action) : Prop :=
  (position :: scrolls actions).IsChain
    (fun p q => settings.scrollThreshold < scrollDistance p q)

variable {settings : Settings}
variable {action : Action}
variable {actions : List Action}
variable {position : Int × Int}

namespace Settings

/- The next scroll is measured from where this one went. -/
theorem strides_cons_of_scroll
    (hKind : action.kind = .scroll) :
    settings.Strides position (action :: actions) ↔
      settings.isFar position action = true ∧
        settings.Strides action.position actions := by
  unfold Strides
  rw [scrolls_cons_of_scroll hKind, List.isChain_cons_cons,
    isFar_iff]
  exact and_congr_left fun _ => (and_iff_right hKind).symm

theorem strides_cons_of_not_scroll
    (hKind : action.kind ≠ .scroll) :
    settings.Strides position (action :: actions) ↔
      settings.Strides position actions := by
  unfold Strides
  rw [scrolls_cons_of_not_scroll hKind]

end Settings

namespace Sieve

variable {sieve other : Sieve}

------------------------------------------------------------
-- Clean Recordings
------------------------------------------------------------

/- A signal strides on from where the page is scrolled to. -/
theorem strides_cons_of_isSignal
    (hSignal : sieve.isSignal settings action = true) :
    settings.Strides sieve.scroll (action :: actions) ↔
      settings.Strides (sieve.next settings action).scroll
        actions := by
  rw [scroll_next]
  by_cases hKind : action.kind = .scroll
  · rw [isSignal_of_scroll hKind] at hSignal
    rw [Settings.strides_cons_of_scroll hKind, hSignal,
      if_pos rfl]
    exact and_iff_right rfl
  · rw [Settings.strides_cons_of_not_scroll hKind,
      Settings.isFar_of_not_scroll hKind,
      if_neg Bool.false_ne_true]

/-
  A matching sieve lets all pass that was kept, just if the
  scrolls among it go far enough from where that sieve is. The
  induction is on the recording; the two sieves match before
  every action, since what is dropped changes neither the
  location nor the last action.
-/
theorem keep_keep_iff
    (hMatches : Matches sieve other) :
    other.keep settings (sieve.keep settings actions) =
        sieve.keep settings actions ↔
      settings.Strides other.scroll
        (sieve.keep settings actions) := by
  induction actions generalizing sieve other with
  | nil => exact iff_of_true rfl (List.IsChain.singleton _)
  | cons action rest ih =>
      by_cases hPasses : sieve.passes settings action = true
      · have hParts := passes_iff.mp hPasses
        rw [keep_cons_of_passes hPasses]
        by_cases hSignal : other.isSignal settings action = true
        · -- It passes again, and the rest decides.
          have hAgain : other.passes settings action = true := by
            rw [passes_iff, hMatches.isRepeated_eq]
            exact ⟨hSignal, hParts.2⟩
          have hNext :=
            hMatches.next (hSignal.trans hParts.1.symm)
          rw [keep_cons_of_passes hAgain,
            strides_cons_of_isSignal hSignal, ← ih hNext]
          exact List.cons_inj_right action
        · -- It is dropped: a scroll that is not far any more.
          have hDropped :
              ¬ other.passes settings action = true :=
            fun hAgain => hSignal (passes_iff.mp hAgain).1
          have hKind : action.kind = .scroll := by
            by_contra hKind
            apply hSignal
            rw [hMatches.isSignal_eq (by
              rw [Settings.isFar_of_not_scroll hKind,
                Settings.isFar_of_not_scroll hKind])]
            exact hParts.1
          have hNear :
              ¬ settings.isFar other.scroll action = true := by
            rw [← isSignal_of_scroll hKind]
            exact hSignal
          refine iff_of_false ?_ ?_
          · intro hSame
            rw [keep_cons_of_not_passes hDropped] at hSame
            have hShort :=
              (keep_sublist (other.next settings action) settings
                ((sieve.next settings action).keep settings
                  rest)).length_le
            rw [hSame, List.length_cons] at hShort
            exact Nat.not_succ_le_self _ hShort
          · rw [Settings.strides_cons_of_scroll hKind]
            exact fun hBoth => hNear hBoth.1
      · have hNext := next_of_not_passes hPasses
        rw [keep_cons_of_not_passes hPasses]
        apply ih
        exact ⟨hMatches.location.trans hNext.1.symm,
          hMatches.last.trans hNext.2.symm⟩

/-
  Where no scroll is dropped as a repetition, the ones that
  are kept go far from one another.
-/
theorem strides_keep
    (hNew :
      ∀ before action after,
        actions = before ++ action :: after →
          action.kind = .scroll →
            ¬ (sieve.after settings before).isRepeated settings
              action = true) :
    settings.Strides sieve.scroll
      (sieve.keep settings actions) := by
  induction actions generalizing sieve with
  | nil => exact List.IsChain.singleton _
  | cons action rest ih =>
      have hRest :=
        @ih (sieve.next settings action)
          fun before later after hSplit =>
            hNew (action :: before) later after
              (congrArg (List.cons action) hSplit)
      by_cases hPasses : sieve.passes settings action = true
      · have hSignal := (passes_iff.mp hPasses).1
        rw [keep_cons_of_passes hPasses,
          strides_cons_of_isSignal hSignal]
        exact hRest
      · have hScroll :
            (sieve.next settings action).scroll =
              sieve.scroll := by
          rw [scroll_next, if_neg]
          intro hFar
          have hKind := (Settings.isFar_iff.mp hFar).1
          apply hPasses
          rw [passes_iff, isSignal_of_scroll hKind]
          exact ⟨hFar, hNew [] action rest rfl hKind⟩
        rw [keep_cons_of_not_passes hPasses, ← hScroll]
        exact hRest

end Sieve

------------------------------------------------------------
-- Cleaning Twice
------------------------------------------------------------

/-
  Cleaning a clean recording again changes nothing, just if
  each scroll in it goes far from the one before it, and the
  first one from the top of the page.
-/
theorem prefilter_prefilter_iff
    (settings : Settings)
    (actions : List Action) :
    prefilter settings (prefilter settings actions) =
        prefilter settings actions ↔
      settings.Strides (0, 0) (prefilter settings actions) :=
  Sieve.keep_keep_iff ⟨rfl, rfl⟩

/-
  The page is scrolled down in two goes, of which the second
  is dropped as a repetition, and later back up.
-/
def bounce : List Action :=
  [{ kind := .scroll, scrollY := some 200 },
    { kind := .scroll, scrollY := some 400, timestamp := 10 },
    { kind := .scroll, scrollY := some 250, timestamp := 5000 }]

theorem prefilter_prefilter_bounce :
    (prefilter {} bounce).map Action.position =
        [(0, 200), (0, 250)] ∧
      prefilter {} (prefilter {} bounce) ≠
        prefilter {} bounce := by
  decide

/-
  In particular nothing changes where no scroll repeats the
  action kept before it.
-/
theorem prefilter_prefilter_of_not_isRepeated
    (hNew :
      ∀ before action after,
        actions = before ++ action :: after →
          action.kind = .scroll →
            ¬ (Sieve.after {} settings before).isRepeated
              settings action = true) :
    prefilter settings (prefilter settings actions) =
      prefilter settings actions :=
  (Sieve.keep_keep_iff ⟨rfl, rfl⟩).mpr
    (Sieve.strides_keep hNew)

end Plan

end Clickstream
