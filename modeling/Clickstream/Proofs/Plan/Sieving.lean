import Clickstream.Proofs.Plan.Cleanup

/-
  Sieving: how cleaning goes on from what it remembers. A
  recording may be cleaned piece by piece, and two sieves that
  remember the same but for a scroll decide alike about all
  that is no scroll.

  Key definitions:
    * `scrolls`, `Settings.isFar`
    * `Sieve.after`
    * `Sieve.Matches`: the same memory but for the scroll

  Key theorems:
    * `Sieve.keep_append`, `Sieve.keep_sublist`
    * `Sieve.last_after`
    * `Sieve.Matches.next`
-/

namespace Clickstream

namespace Plan

------------------------------------------------------------
-- Scrolls
------------------------------------------------------------

/- Where the scrolls among some actions went. -/
def scrolls (actions : List Action) : List (Int × Int) :=
  (actions.filter (fun a => a.kind = .scroll)).map
    Action.position

/- Whether an action scrolls far away from a position. -/
def Settings.isFar
    (settings : Settings)
    (position : Int × Int)
    (action : Action) : Bool :=
  action.kind = .scroll &&
    settings.scrollThreshold <
      scrollDistance position action.position

variable {settings : Settings}
variable {action : Action}
variable {position : Int × Int}

theorem scrolls_cons_of_scroll
    (hKind : action.kind = .scroll)
    (actions : List Action) :
    scrolls (action :: actions) =
      action.position :: scrolls actions := by
  unfold scrolls
  rw [List.filter_cons_of_pos (by simpa using hKind),
    List.map_cons]

theorem scrolls_cons_of_not_scroll
    (hKind : action.kind ≠ .scroll)
    (actions : List Action) :
    scrolls (action :: actions) = scrolls actions := by
  unfold scrolls
  rw [List.filter_cons_of_neg (by simpa using hKind)]

namespace Settings

theorem isFar_iff :
    settings.isFar position action = true ↔
      action.kind = .scroll ∧
        settings.scrollThreshold <
          scrollDistance position action.position := by
  unfold isFar
  rw [Bool.and_eq_true, decide_eq_true_eq, decide_eq_true_eq]

theorem isFar_of_not_scroll
    (hKind : action.kind ≠ .scroll)
    (position : Int × Int) :
    settings.isFar position action = false := by
  unfold isFar
  rw [decide_eq_false hKind, Bool.false_and]

end Settings

namespace Sieve

variable {sieve other : Sieve}

/- What is remembered after some actions. -/
def after
    (sieve : Sieve)
    (settings : Settings) :
    List Action → Sieve
  | [] => sieve
  | action :: rest =>
      (sieve.next settings action).after settings rest

------------------------------------------------------------
-- Keeping
------------------------------------------------------------

theorem passes_iff :
    sieve.passes settings action = true ↔
      sieve.isSignal settings action = true ∧
        ¬ sieve.isRepeated settings action = true := by
  unfold passes
  rw [Bool.and_eq_true, Bool.not_eq_true',
    Bool.not_eq_true]

theorem keep_cons_of_passes
    (hPasses : sieve.passes settings action = true)
    (rest : List Action) :
    sieve.keep settings (action :: rest) =
      action ::
        (sieve.next settings action).keep settings rest := by
  rw [keep, if_pos hPasses]

theorem keep_cons_of_not_passes
    (hPasses : ¬ sieve.passes settings action = true)
    (rest : List Action) :
    sieve.keep settings (action :: rest) =
      (sieve.next settings action).keep settings rest := by
  rw [keep, if_neg hPasses]

/- What is kept of a recording is part of it. -/
theorem keep_sublist
    (sieve : Sieve)
    (settings : Settings)
    (actions : List Action) :
    (sieve.keep settings actions).Sublist actions := by
  induction actions generalizing sieve with
  | nil => exact List.Sublist.refl _
  | cons action rest ih =>
      have hRest := ih (sieve.next settings action)
      by_cases hPasses : sieve.passes settings action = true
      · rw [keep_cons_of_passes hPasses]
        exact hRest.cons_cons action
      · rw [keep_cons_of_not_passes hPasses]
        exact hRest.cons action

/- A recording may be cleaned in two goes. -/
theorem keep_append
    (sieve : Sieve)
    (settings : Settings)
    (first second : List Action) :
    sieve.keep settings (first ++ second) =
      sieve.keep settings first ++
        (sieve.after settings first).keep settings second := by
  induction first generalizing sieve with
  | nil => rfl
  | cons action first ih =>
      have hRest := ih (sieve.next settings action)
      rw [List.cons_append, after]
      by_cases hPasses : sieve.passes settings action = true
      · rw [keep_cons_of_passes hPasses,
          keep_cons_of_passes hPasses, hRest,
          List.cons_append]
      · rw [keep_cons_of_not_passes hPasses,
          keep_cons_of_not_passes hPasses, hRest]

------------------------------------------------------------
-- Remembering
------------------------------------------------------------

/- A repetition comes shortly after an action like it. -/
theorem isRepeated_iff :
    sieve.isRepeated settings action = true ↔
      action.isNavigation = false ∧
        ∃ last, sieve.last = some last ∧
          last.SameTarget action ∧
          last.elapsed action < settings.duplicateWindow := by
  unfold isRepeated
  cases sieve.last with
  | none => simp
  | some last => simp

/- What passes is the last action from then on. -/
theorem last_next_of_passes
    (hPasses : sieve.passes settings action = true) :
    (sieve.next settings action).last = some action := by
  rcases passes_iff.mp hPasses with ⟨hSignal, hNew⟩
  unfold next
  rw [if_pos hSignal]
  exact if_neg hNew

/- What does not pass tells no address and is forgotten. -/
theorem next_of_not_passes
    (hPasses : ¬ sieve.passes settings action = true) :
    (sieve.next settings action).location = sieve.location ∧
      (sieve.next settings action).last = sieve.last := by
  by_cases hSignal : sieve.isSignal settings action = true
  · have hRepeated :
        sieve.isRepeated settings action = true :=
      Decidable.byContradiction fun hNew =>
        hPasses (passes_iff.mpr ⟨hSignal, hNew⟩)
    have hNone : action.address? = none := by
      unfold Action.address?
      rw [(isRepeated_iff.mp hRepeated).1]
      rfl
    refine ⟨location_next_of_none hNone, ?_⟩
    unfold next
    rw [if_pos hSignal]
    exact if_pos hRepeated
  · rw [next_of_not_isSignal hSignal]
    exact ⟨rfl, rfl⟩

/- The last action is the last that was kept. -/
theorem last_after
    (sieve : Sieve)
    (settings : Settings)
    (actions : List Action) :
    (sieve.after settings actions).last =
      (sieve.keep settings actions).getLast?.or
        sieve.last := by
  induction actions generalizing sieve with
  | nil => rfl
  | cons action rest ih =>
      rw [after, ih]
      by_cases hPasses : sieve.passes settings action = true
      · rw [keep_cons_of_passes hPasses,
          last_next_of_passes hPasses, List.getLast?_cons]
        cases ((sieve.next settings action).keep settings
          rest).getLast? <;> rfl
      · rw [keep_cons_of_not_passes hPasses,
          (next_of_not_passes hPasses).2]

------------------------------------------------------------
-- Scrolling
------------------------------------------------------------

/- A scroll is a signal just if it goes far. -/
theorem isSignal_of_scroll
    (hKind : action.kind = .scroll) :
    sieve.isSignal settings action =
      settings.isFar sieve.scroll action := by
  unfold isSignal Settings.isFar
  rw [hKind]
  rfl

/- A scroll that goes far counts, whether it is kept or not. -/
theorem scroll_next
    (sieve : Sieve)
    (settings : Settings)
    (action : Action) :
    (sieve.next settings action).scroll =
      if settings.isFar sieve.scroll action then
        action.position
      else sieve.scroll := by
  unfold next
  by_cases hKind : action.kind = .scroll
  · rw [isSignal_of_scroll hKind, if_pos hKind]
    split <;> rfl
  · rw [Settings.isFar_of_not_scroll hKind, if_neg hKind,
      if_neg Bool.false_ne_true]
    split <;> rfl

------------------------------------------------------------
-- Matching Sieves
------------------------------------------------------------

/-
  Whether two sieves remember the same, except perhaps how far
  the page is scrolled.
-/
structure Matches (sieve other : Sieve) : Prop where
  location : other.location = sieve.location
  last : other.last = sieve.last

namespace Matches

theorem isRepeated_eq
    (hMatches : Matches sieve other) :
    other.isRepeated settings action =
      sieve.isRepeated settings action := by
  unfold isRepeated
  rw [hMatches.last]

/- Scrolls are all that they may differ about. -/
theorem isSignal_eq
    (hMatches : Matches sieve other)
    (hFar :
      settings.isFar other.scroll action =
        settings.isFar sieve.scroll action) :
    other.isSignal settings action =
      sieve.isSignal settings action := by
  by_cases hKind : action.kind = .scroll
  · rw [isSignal_of_scroll hKind, isSignal_of_scroll hKind,
      hFar]
  · unfold isSignal
    rw [hMatches.location]
    split
    case h_5 hScroll => exact absurd hScroll hKind
    all_goals rfl

/- After an action that both judge alike they match as well. -/
theorem next
    (hMatches : Matches sieve other)
    (hSignal :
      other.isSignal settings action =
        sieve.isSignal settings action) :
    Matches (sieve.next settings action)
      (other.next settings action) := by
  unfold Sieve.next
  rw [hSignal, hMatches.isRepeated_eq]
  split
  · constructor
    · dsimp only
      rw [hMatches.location]
    · dsimp only
      rw [hMatches.last]
  · exact hMatches

end Matches

end Sieve

end Plan

end Clickstream
