import Clickstream.Proofs.Plan.Scrolling

/-
  Noise: what happened before the first page. None of it is
  planned, but cleaning has seen it. All that it leaves behind
  is how far the page is scrolled, and the first scroll on the
  page that goes far decides whether that matters.

  Key definitions:
    * `Settings.scrolledTo`
    * `Sieve.opened`: what is remembered on the first page

  Key theorems:
    * `clean_append`
    * `Sieve.Matches.keep_eq`
    * `Sieve.find?_keep`
    * `build_append_eq_iff`
-/

namespace Clickstream

namespace Plan

/-
  Where a page is scrolled to after some actions: scrolls that
  do not go far enough do not count.
-/
def Settings.scrolledTo
    (settings : Settings)
    (position : Int × Int)
    (actions : List Action) : Int × Int :=
  actions.foldl
    (fun p action =>
      if settings.isFar p action then action.position else p)
    position

variable {settings : Settings}
variable {action first : Action}
variable {actions noise rest : List Action}
variable {url : String}
variable {p q : Int × Int}

namespace Sieve

variable {sieve other : Sieve}

/- What is remembered when the first page is opened. -/
def opened
    (first : Action)
    (position : Int × Int) : Sieve where
  location := first.address?
  scroll := position
  last := some first

------------------------------------------------------------
-- What Noise Leaves Behind
------------------------------------------------------------

theorem scroll_after
    (sieve : Sieve)
    (settings : Settings)
    (actions : List Action) :
    (sieve.after settings actions).scroll =
      settings.scrolledTo sieve.scroll actions := by
  induction actions generalizing sieve with
  | nil => rfl
  | cons action rest ih =>
      rw [after, ih, scroll_next]
      rfl

/- Without an address the location stays what it was. -/
theorem location_after_of_none
    (hNone : ∀ action ∈ actions, action.address? = none) :
    (sieve.after settings actions).location =
      sieve.location := by
  induction actions generalizing sieve with
  | nil => rfl
  | cons action rest ih =>
      have hFirst := hNone action List.mem_cons_self
      rw [after, ih fun later hLater =>
        hNone later (List.mem_cons_of_mem _ hLater)]
      exact location_next_of_none hFirst

/- The first page is always opened. -/
theorem passes_of_location_eq_none
    (hLocation : sieve.location = none)
    (hAddress : first.address? = some url) :
    sieve.passes settings first = true := by
  rw [passes_of_address hAddress,
    isSignal_of_address hAddress, hLocation]
  exact (Option.some_ne_none url).symm

theorem next_of_location_eq_none
    (hLocation : sieve.location = none)
    (hAddress : first.address? = some url) :
    sieve.next settings first =
      opened first sieve.scroll := by
  have hEq :
      ∀ s : Sieve,
        s.location = first.address? →
          s.scroll = sieve.scroll → s.last = some first →
            s = opened first sieve.scroll := by
    rintro ⟨_, _, _⟩ rfl rfl rfl
    rfl
  have hPasses :
      sieve.passes settings first = true :=
    passes_of_location_eq_none hLocation hAddress
  have hSignal := hPasses
  rw [passes_of_address hAddress] at hSignal
  have hKind : first.kind ≠ .scroll := by
    rw [(kind_of_address?_eq_some hAddress).1]
    decide
  apply hEq
  · rw [location_next_of_isSignal hSignal, hAddress,
      Option.some_or]
  · rw [scroll_next, Settings.isFar_of_not_scroll hKind,
      if_neg Bool.false_ne_true]
  · exact last_next_of_passes hPasses

end Sieve

/-
  What is planned of a recording with noise in front: the page
  it opens first and what is kept from there on.
-/
theorem clean_append
    (settings : Settings)
    (hNoise : ∀ action ∈ noise, action.address? = none)
    (hAddress : first.address? = some url)
    (rest : List Action) :
    clean settings (noise ++ first :: rest) =
      first ::
        (Sieve.opened first
          (settings.scrolledTo (0, 0) noise)).keep
            settings rest := by
  have hLocation :
      (Sieve.after {} settings noise).location = none :=
    Sieve.location_after_of_none hNoise
  have hDropped :
      ∀ action ∈ Sieve.keep {} settings noise,
        action.address?.isNone = true := by
    intro action hAction
    rw [hNoise action
      ((Sieve.keep_sublist _ _ _).subset hAction)]
    rfl
  have hStays :
      ∀ others : List Action,
        (first :: others).dropWhile
            (fun action => action.address?.isNone) =
          first :: others := by
    intro others
    apply List.dropWhile_cons_of_neg
    rw [hAddress]
    exact Bool.false_ne_true
  unfold clean anchor prefilter
  rw [Sieve.keep_append,
    List.dropWhile_append_of_pos hDropped,
    Sieve.keep_cons_of_passes
      (Sieve.passes_of_location_eq_none hLocation hAddress),
    hStays,
    Sieve.next_of_location_eq_none hLocation hAddress,
    Sieve.scroll_after]

------------------------------------------------------------
-- The First Far Scroll
------------------------------------------------------------

/- What is not far is not found, nor is its like later on. -/
theorem find?_ne_some_of_not_isFar
    (hKind : action.kind = .scroll)
    (hNear : ¬ settings.isFar p action = true) :
    (actions.find? (settings.isFar p)).map Action.position ≠
      some action.position := by
  intro hFound
  rcases Option.map_eq_some_iff.mp hFound with
    ⟨other, hOther, hSame⟩
  have hFar := Settings.isFar_iff.mp (List.find?_some hOther)
  rw [hSame] at hFar
  exact hNear (Settings.isFar_iff.mpr ⟨hKind, hFar.2⟩)

/-
  If the first scrolls that are far from two positions go to
  the same place, they are the same scroll.
-/
theorem find?_isFar_eq
    (hPlaces :
      (actions.find? (settings.isFar p)).map
          Action.position =
        (actions.find? (settings.isFar q)).map
          Action.position) :
    actions.find? (settings.isFar p) =
      actions.find? (settings.isFar q) := by
  induction actions with
  | nil => rw [List.find?_nil, List.find?_nil]
  | cons action rest ih =>
      by_cases hp : settings.isFar p action = true
      · have hKind := (Settings.isFar_iff.mp hp).1
        rw [List.find?_cons_of_pos hp] at hPlaces ⊢
        by_cases hq : settings.isFar q action = true
        · rw [List.find?_cons_of_pos hq]
        · rw [List.find?_cons_of_neg hq] at hPlaces
          exact absurd hPlaces.symm
            (find?_ne_some_of_not_isFar hKind hq)
      · rw [List.find?_cons_of_neg hp] at hPlaces ⊢
        by_cases hq : settings.isFar q action = true
        · have hKind := (Settings.isFar_iff.mp hq).1
          rw [List.find?_cons_of_pos hq] at hPlaces
          exact absurd hPlaces
            (find?_ne_some_of_not_isFar hKind hp)
        · rw [List.find?_cons_of_neg hq] at hPlaces ⊢
          exact ih hPlaces

namespace Sieve

variable {sieve other : Sieve}

/- Sieves that match and are scrolled alike are the same. -/
theorem Matches.eq_of_scroll
    (hMatches : Matches sieve other)
    (hScroll : other.scroll = sieve.scroll) :
    other = sieve := by
  rcases hMatches with ⟨hLocation, hLast⟩
  cases sieve
  cases other
  cases hLocation
  cases hLast
  cases hScroll
  rfl

/-
  Matching sieves keep the same if the same scroll is the first
  to be far from where each of them is: both are there from
  then on, and until then they decide alike.
-/
theorem Matches.keep_eq
    (hMatches : Matches sieve other)
    (hFirst :
      actions.find? (settings.isFar sieve.scroll) =
        actions.find? (settings.isFar other.scroll)) :
    other.keep settings actions =
      sieve.keep settings actions := by
  induction actions generalizing sieve other with
  | nil => rfl
  | cons action rest ih =>
      have hAlike :
          settings.isFar other.scroll action =
            settings.isFar sieve.scroll action := by
        rw [Bool.eq_iff_iff]
        constructor
        · intro hFar
          rw [List.find?_cons_of_pos hFar] at hFirst
          exact List.find?_some hFirst
        · intro hFar
          rw [List.find?_cons_of_pos hFar] at hFirst
          exact List.find?_some hFirst.symm
      have hSignal := hMatches.isSignal_eq hAlike
      have hPasses :
          other.passes settings action =
            sieve.passes settings action := by
        unfold passes
        rw [hSignal, hMatches.isRepeated_eq]
      have hRest :
          (other.next settings action).keep settings rest =
            (sieve.next settings action).keep settings
              rest := by
        have hNext := hMatches.next hSignal
        by_cases hFar :
            settings.isFar sieve.scroll action = true
        · have hSame :
              (other.next settings action).scroll =
                (sieve.next settings action).scroll := by
            rw [scroll_next, scroll_next, hAlike, if_pos hFar,
              if_pos hFar]
          rw [hNext.eq_of_scroll hSame]
        · have hNear :
              ¬ settings.isFar other.scroll action = true := by
            rw [hAlike]
            exact hFar
          apply ih hNext
          rw [scroll_next, scroll_next, if_neg hFar,
            if_neg hNear]
          rw [List.find?_cons_of_neg hFar,
            List.find?_cons_of_neg hNear] at hFirst
          exact hFirst
      rw [keep, keep, hPasses, hRest]

/-
  Where the last action kept is no scroll, the first scroll to
  be kept is the first that goes far.
-/
theorem find?_keep
    (hLast : ∀ last ∈ sieve.last, last.kind ≠ .scroll) :
    (sieve.keep settings actions).find?
        (fun action => action.kind = .scroll) =
      actions.find? (settings.isFar sieve.scroll) := by
  induction actions generalizing sieve with
  | nil => rfl
  | cons action rest ih =>
      by_cases hFar : settings.isFar sieve.scroll action = true
      · have hKind := (Settings.isFar_iff.mp hFar).1
        have hNew :
            ¬ sieve.isRepeated settings action = true := by
          intro hRepeated
          rcases isRepeated_iff.mp hRepeated with
            ⟨_, last, hMem, hSame, _⟩
          exact hLast last hMem (hSame.1.trans hKind)
        have hPasses : sieve.passes settings action = true := by
          rw [passes_iff, isSignal_of_scroll hKind]
          exact ⟨hFar, hNew⟩
        rw [keep_cons_of_passes hPasses,
          List.find?_cons_of_pos hFar]
        exact List.find?_cons_of_pos (by simpa using hKind)
      · have hScroll :
            (sieve.next settings action).scroll =
              sieve.scroll := by
          rw [scroll_next, if_neg hFar]
        have hRest := @ih (sieve.next settings action)
        rw [hScroll] at hRest
        rw [List.find?_cons_of_neg hFar]
        by_cases hPasses : sieve.passes settings action = true
        · have hKind : action.kind ≠ .scroll := by
            intro hKind
            apply hFar
            rw [← isSignal_of_scroll hKind]
            exact (passes_iff.mp hPasses).1
          rw [last_next_of_passes hPasses] at hRest
          rw [keep_cons_of_passes hPasses,
            List.find?_cons_of_neg (by simpa using hKind)]
          exact hRest fun last hMem => by
            rw [← Option.some.inj hMem]
            exact hKind
        · rw [keep_cons_of_not_passes hPasses]
          apply hRest
          rw [(next_of_not_passes hPasses).2]
          exact hLast

end Sieve

------------------------------------------------------------
-- Plans
------------------------------------------------------------

/- Where the first of some scrolls went. -/
theorem head?_scrolls (actions : List Action) :
    (scrolls actions).head? =
      (actions.find? (fun a => a.kind = .scroll)).map
        Action.position := by
  unfold scrolls
  rw [List.head?_map, List.head?_filter]

/-
  Noise in front of a recording does not change its plan, just
  if the same scroll is the first to go far from where the
  noise left the page and from where a page begins.
-/
theorem build_append_eq_iff
    (settings : Settings)
    (fallback : Option String)
    (hNoise : ∀ action ∈ noise, action.address? = none)
    (hAddress : first.address? = some url) :
    build settings fallback (noise ++ first :: rest) =
        build settings fallback (first :: rest) ↔
      (first :: rest).find?
          (settings.isFar (settings.scrolledTo (0, 0) noise)) =
        (first :: rest).find? (settings.isFar (0, 0)) := by
  have hNoisy := clean_append settings hNoise hAddress rest
  have hQuiet :
      clean settings (first :: rest) =
        first ::
          (Sieve.opened first (0, 0)).keep settings rest :=
    clean_append settings (List.forall_mem_nil _) hAddress rest
  have hKind : first.kind ≠ .scroll := by
    rw [(kind_of_address?_eq_some hAddress).1]
    decide
  have hNear : ∀ p, ¬ settings.isFar p first = true := by
    intro p
    rw [Settings.isFar_of_not_scroll hKind]
    exact Bool.false_ne_true
  rw [List.find?_cons_of_neg (hNear _),
    List.find?_cons_of_neg (hNear _)]
  constructor
  · -- Equal plans scroll to the same place first.
    intro hSame
    have hScrolls := congrArg scrolled hSame
    rw [scrolled_build, scrolled_build, hNoisy, hQuiet,
      scrolls_cons_of_not_scroll hKind,
      scrolls_cons_of_not_scroll hKind] at hScrolls
    have hHeads := congrArg List.head? hScrolls
    have hLast :
        ∀ p, ∀ last ∈ (Sieve.opened first p).last,
          last.kind ≠ .scroll := by
      intro p last hMem
      rw [← Option.some.inj hMem]
      exact hKind
    rw [head?_scrolls, head?_scrolls,
      Sieve.find?_keep (hLast _),
      Sieve.find?_keep (hLast _)] at hHeads
    exact find?_isFar_eq hHeads
  · intro hFirst
    have hKept :
        (Sieve.opened first
            (settings.scrolledTo (0, 0) noise)).keep settings
              rest =
          (Sieve.opened first (0, 0)).keep settings rest :=
      Sieve.Matches.keep_eq ⟨rfl, rfl⟩ hFirst.symm
    have hClean :
        clean settings (noise ++ first :: rest) =
          clean settings (first :: rest) := by
      rw [hNoisy, hQuiet, hKept]
    unfold build
    rw [hClean]

/- The page goes to an address. -/
def openPage : Action :=
  Action.navigate "/a" none 10

/- The page is scrolled down to some height. -/
def scrollDown (height : Int) : Action :=
  { kind := .scroll, scrollY := some height, timestamp := 20 }

/- A scroll that is far from both places stays as it was. -/
theorem build_append_eq_iff_scrollDown :
    (∀ action ∈ [scrollDown 150], action.address? = none) ∧
      openPage.address? = some "/a" ∧
      (build {} none
            ([scrollDown 150] ++ openPage :: [scrollDown 300]) =
          build {} none (openPage :: [scrollDown 300]) ↔
        (openPage :: [scrollDown 300]).find?
            (Settings.isFar {}
              (Settings.scrolledTo {} (0, 0)
                [scrollDown 150])) =
          (openPage :: [scrollDown 300]).find?
            (Settings.isFar {} (0, 0))) := by
  have hNoise :
      ∀ action ∈ [scrollDown 150], action.address? = none := by
    decide
  exact ⟨hNoise, rfl, build_append_eq_iff {} none hNoise rfl⟩

/-
  A scroll that is near the place where another page was left
  is missing from the test.
-/
theorem build_scrollDown_ne :
    (∀ action ∈ [scrollDown 150], action.address? = none) ∧
      openPage.address? = some "/a" ∧
      build {} none
          ([scrollDown 150] ++ openPage :: [scrollDown 200]) ≠
        build {} none (openPage :: [scrollDown 200]) := by
  refine ⟨by decide, rfl, fun hSame => ?_⟩
  have hScrolls := congrArg scrolled hSame
  rw [scrolled_build, scrolled_build] at hScrolls
  revert hScrolls
  decide

end Plan

end Clickstream
