import Clickstream.Plan.Cleanup

/-
  Cleaned recordings. Every navigation that is kept goes
  somewhere else than the one kept before it, and what a test
  is planned from begins with a navigation.

  Key definitions:
    * `Plan.Moves`

  Key theorems:
    * `Sieve.moves_keep`
    * `moves_clean`
    * `address?_of_clean_eq_cons`
-/

namespace Clickstream

namespace Plan

------------------------------------------------------------
-- Navigations
------------------------------------------------------------

/-
  Whether each navigation with an address leaves the place
  where the page is, which is `location` at first.
-/
def Moves : Option String → List Action → Prop
  | _, [] => True
  | location, action :: rest =>
      match action.address? with
      | some url => location ≠ some url ∧ Moves (some url) rest
      | none => Moves location rest

variable {location : Option String}
variable {action : Action}
variable {actions rest : List Action}
variable {url : String}

theorem moves_cons_of_some
    (hAddress : action.address? = some url) :
    Moves location (action :: rest) ↔
      location ≠ some url ∧ Moves (some url) rest := by
  rw [Moves, hAddress]

theorem moves_cons_of_none
    (hAddress : action.address? = none) :
    Moves location (action :: rest) ↔
      Moves location rest := by
  rw [Moves, hAddress]

/- An address belongs to a navigation. -/
theorem kind_of_address?_eq_some
    (hAddress : action.address? = some url) :
    action.kind = .navigate ∧ action.url = some url := by
  unfold Action.address? at hAddress
  split at hAddress
  · rename_i hNavigation
    exact ⟨of_decide_eq_true hNavigation, hAddress⟩
  · cases hAddress

------------------------------------------------------------
-- Cleaning
------------------------------------------------------------

namespace Sieve

variable {settings : Settings}
variable {sieve : Sieve}

/- A navigation is a signal just if it leaves the page. -/
theorem isSignal_of_address
    (hAddress : action.address? = some url) :
    sieve.isSignal settings action = true ↔
      sieve.location ≠ some url := by
  rcases kind_of_address?_eq_some hAddress with ⟨hKind, hUrl⟩
  unfold isSignal
  rw [hKind, hUrl]
  simp only [Option.isNone_some, Bool.false_or,
    decide_eq_true_eq]
  exact ne_comm

/- A navigation is kept just if it is a signal. -/
theorem passes_of_address
    (hAddress : action.address? = some url) :
    sieve.passes settings action =
      sieve.isSignal settings action := by
  rcases kind_of_address?_eq_some hAddress with ⟨hKind, _⟩
  simp [passes, isRepeated, Action.isNavigation, hKind]

/- A signal may tell where the page is. -/
theorem location_next_of_isSignal
    (hSignal : sieve.isSignal settings action = true) :
    (sieve.next settings action).location =
      action.address?.or sieve.location := by
  unfold next
  rw [if_pos hSignal]

/- Noise is forgotten. -/
theorem next_of_not_isSignal
    (hSignal : ¬ sieve.isSignal settings action = true) :
    sieve.next settings action = sieve := by
  unfold next
  rw [if_neg hSignal]

/- What is no navigation does not tell where the page is. -/
theorem location_next_of_none
    (hAddress : action.address? = none) :
    (sieve.next settings action).location =
      sieve.location := by
  by_cases hSignal : sieve.isSignal settings action = true
  · rw [location_next_of_isSignal hSignal, hAddress,
      Option.none_or]
  · rw [next_of_not_isSignal hSignal]

/-
  Each kept navigation leaves the place that was known before
  it. The sieve knows that place at every step, since only
  kept navigations change it.
-/
theorem moves_keep
    (sieve : Sieve)
    (settings : Settings)
    (actions : List Action) :
    Moves sieve.location (sieve.keep settings actions) := by
  induction actions generalizing sieve with
  | nil => trivial
  | cons action rest ih =>
      have hNext := ih (sieve.next settings action)
      unfold keep
      cases hAddress : action.address? with
      | none =>
          rw [location_next_of_none hAddress] at hNext
          dsimp only
          split
          · exact (moves_cons_of_none hAddress).mpr hNext
          · exact hNext
      | some url =>
          dsimp only
          rw [passes_of_address hAddress]
          by_cases hSignal :
              sieve.isSignal settings action = true
          · rw [location_next_of_isSignal hSignal, hAddress,
              Option.some_or] at hNext
            rw [if_pos hSignal]
            have hLeaves :=
              (isSignal_of_address hAddress).mp hSignal
            exact (moves_cons_of_some hAddress).mpr
              ⟨hLeaves, hNext⟩
          · rw [next_of_not_isSignal hSignal] at hNext
            rw [if_neg hSignal, next_of_not_isSignal hSignal]
            exact hNext

end Sieve

------------------------------------------------------------
-- The First Page
------------------------------------------------------------

/- What comes before the first address moves nowhere. -/
theorem moves_anchor
    (hMoves : Moves location actions) :
    Moves location (anchor actions) := by
  induction actions with
  | nil => trivial
  | cons action rest ih =>
      unfold anchor
      rw [List.dropWhile_cons]
      split
      · rename_i hAddress
        have hNone := Option.isNone_iff_eq_none.mp hAddress
        exact ih ((moves_cons_of_none hNone).mp hMoves)
      · exact hMoves

theorem moves_clean
    (settings : Settings)
    (actions : List Action) :
    Moves none (clean settings actions) :=
  moves_anchor (Sieve.moves_keep {} settings actions)

/- The first action of a cleaned recording has an address. -/
theorem address?_of_clean_eq_cons
    {settings : Settings}
    (hClean : clean settings actions = action :: rest) :
    ∃ url, action.address? = some url := by
  have hHead :=
    List.head?_dropWhile_not
      (fun action : Action => action.address?.isNone)
      (prefilter settings actions)
  have hFirst :
      (clean settings actions).head? = some action := by
    rw [hClean, List.head?_cons]
  unfold clean anchor at hFirst
  rw [hFirst] at hHead
  exact Option.isSome_iff_exists.mp (by simpa using hHead)

end Plan

end Clickstream
