import Mathlib.Data.List.SplitBy
import Mathlib.Data.List.TakeWhile
import Clickstream.Proofs.Plan.Entries

/-
  Segments: how the actions of one page are put together.
  Typing in one field stays together for as long as it goes
  on, every other action is on its own, and there is one entry
  for each segment, in order.

  Key definitions:
    * `Plan.TypesWith`: typing in one and the same field
    * `Plan.runs`: segments taken off the front one by one
    * `Plan.LieTogether`

  Key theorems:
    * `segments_eq_runs`
    * `lieTogether_or_apart`
    * `lieTogether_segments_iff`
    * `Settings.entries_segments`
-/

namespace Clickstream

namespace Plan

------------------------------------------------------------
-- Typing in One Field
------------------------------------------------------------

/-
  Whether two actions are both typing, on one selector that is
  known and under one path of frames.
-/
structure TypesWith (a b : Action) : Prop where
  kindLeft : a.kind = .type ∨ a.kind = .keypress
  kindRight : b.kind = .type ∨ b.kind = .keypress
  selector :
    ∃ selector,
      a.selector = some selector ∧ b.selector = some selector
  frames : a.frames = b.frames

variable {a b : Action}

theorem isTyping_iff :
    isTyping a = true ↔
      a.kind = .type ∨ a.kind = .keypress := by
  simp [isTyping]

theorem isSameField_iff :
    isSameField a b = true ↔ TypesWith a b := by
  simp only [isSameField, Bool.and_eq_true, isTyping_iff,
    decide_eq_true_eq, Option.isSome_iff_exists]
  constructor
  · rintro ⟨⟨⟨⟨hLeft, hRight⟩, selector, hSome⟩, hSame⟩,
      hFrames⟩
    exact ⟨hLeft, hRight,
      ⟨selector, hSome, hSame.symm.trans hSome⟩, hFrames⟩
  · rintro ⟨hLeft, hRight, ⟨selector, hSome, hOther⟩, hFrames⟩
    exact ⟨⟨⟨⟨hLeft, hRight⟩, selector, hSome⟩,
      hSome.trans hOther.symm⟩, hFrames⟩

/- What types in a field with another is typing in its own. -/
theorem TypesWith.left (hTypes : TypesWith a b) :
    TypesWith a a := by
  rcases hTypes with ⟨hLeft, _, ⟨selector, hSome, _⟩, _⟩
  exact ⟨hLeft, hLeft, ⟨selector, hSome, hSome⟩, rfl⟩

theorem TypesWith.symm (hTypes : TypesWith a b) :
    TypesWith b a := by
  rcases hTypes with
    ⟨hLeft, hRight, ⟨selector, hSome, hOther⟩, hFrames⟩
  exact ⟨hRight, hLeft, ⟨selector, hOther, hSome⟩,
    hFrames.symm⟩

theorem TypesWith.trans
    {c : Action}
    (hFirst : TypesWith a b)
    (hSecond : TypesWith b c) :
    TypesWith a c := by
  rcases hFirst.selector with ⟨selector, hLeft, hMiddle⟩
  rcases hSecond.selector with ⟨other, hMiddle', hRight⟩
  rw [hMiddle'] at hMiddle
  rw [Option.some.inj hMiddle] at hRight
  exact ⟨hFirst.kindLeft, hSecond.kindRight,
    ⟨selector, hLeft, hRight⟩,
    hFirst.frames.trans hSecond.frames⟩

/- Typing in one field can be told by any part of it. -/
theorem isSameField_congr
    (hSame : isSameField a b = true)
    (c : Action) :
    isSameField a c = isSameField b c := by
  have hTypes := isSameField_iff.mp hSame
  rw [Bool.eq_iff_iff, isSameField_iff, isSameField_iff]
  exact ⟨hTypes.symm.trans, hTypes.trans⟩

------------------------------------------------------------
-- Runs
------------------------------------------------------------

/-
  The segments, found from the front: a segment goes on for as
  long as its first action finds typing in its own field. What
  is left over is shorter, so this comes to an end.
-/
def runs : List Action → List (List Action)
  | [] => []
  | first :: rest =>
      (first :: rest.takeWhile (isSameField first)) ::
        runs (rest.dropWhile (isSameField first))
termination_by actions => actions.length
decreasing_by
  exact Nat.lt_succ_of_le
    (List.dropWhile_suffix _).length_le

theorem flatten_runs (actions : List Action) :
    (runs actions).flatten = actions := by
  induction actions using runs.induct with
  | case1 =>
      unfold runs
      rfl
  | case2 first rest ih =>
      unfold runs
      rw [List.flatten_cons, ih, List.cons_append,
        List.takeWhile_append_dropWhile]

theorem nil_not_mem_runs (actions : List Action) :
    [] ∉ runs actions := by
  induction actions using runs.induct with
  | case1 =>
      unfold runs
      exact List.not_mem_nil
  | case2 first rest ih =>
      unfold runs
      intro hMem
      rcases List.mem_cons.mp hMem with hNil | hMem
      · cases hNil
      · exact ih hMem

/- All of a run is typing in the field of its first action. -/
theorem isChain_of_mem_runs
    {actions part : List Action}
    (hPart : part ∈ runs actions) :
    part.IsChain (fun a b => isSameField a b = true) := by
  induction actions using runs.induct with
  | case1 =>
      unfold runs at hPart
      cases hPart
  | case2 first rest ih =>
      unfold runs at hPart
      rcases List.mem_cons.mp hPart with rfl | hPart
      · have hFirst :
            ∀ b ∈ rest.takeWhile (isSameField first),
              isSameField first b = true :=
          fun b hb => List.mem_takeWhile_imp hb
        refine (List.pairwise_cons.mpr
          ⟨hFirst, ?_⟩).isChain
        refine List.pairwise_of_forall_mem_list ?_
        intro a ha b hb
        rw [← isSameField_congr (hFirst a ha) b]
        exact hFirst b hb
      · exact ih hPart

/- The first run starts with the first action. -/
theorem head_of_mem_head?_runs
    {actions part : List Action}
    (hPart : part ∈ (runs actions).head?) :
    ∃ hNe : part ≠ [], part.head hNe ∈ actions.head? := by
  cases actions with
  | nil =>
      unfold runs at hPart
      cases hPart
  | cons first rest =>
      unfold runs at hPart
      cases hPart
      exact ⟨List.cons_ne_nil _ _, rfl⟩

/- The last action of a run has the field of the first. -/
theorem isSameField_getLast
    (first : Action)
    (rest : List Action)
    (c : Action) :
    isSameField
        ((first :: rest.takeWhile (isSameField first)).getLast
          (List.cons_ne_nil _ _)) c =
      isSameField first c := by
  rcases List.mem_cons.mp (List.getLast_mem
      (List.cons_ne_nil first
        (rest.takeWhile (isSameField first)))) with
    hFirst | hLater
  · rw [hFirst]
  · exact (isSameField_congr
      (List.mem_takeWhile_imp hLater) c).symm

/- No run could have gone on into the next one. -/
theorem isChain_runs (actions : List Action) :
    (runs actions).IsChain (fun part next =>
      ∃ hPart hNext,
        isSameField (part.getLast hPart) (next.head hNext) =
          false) := by
  induction actions using runs.induct with
  | case1 =>
      unfold runs
      exact .nil
  | case2 first rest ih =>
      unfold runs
      refine List.isChain_cons.mpr ⟨?_, ih⟩
      intro next hNext
      rcases head_of_mem_head?_runs hNext with ⟨hNe, hHead⟩
      refine ⟨List.cons_ne_nil _ _, hNe, ?_⟩
      rw [isSameField_getLast]
      have hStop :=
        List.head?_dropWhile_not (isSameField first) rest
      rw [hHead] at hStop
      exact Bool.eq_false_iff.mpr (by simpa using hStop)

/-
  Looking at neighbours only, and looking back at the first
  action of a run, give the same segments.
-/
theorem segments_eq_runs (actions : List Action) :
    segments actions = runs actions :=
  List.splitBy_eq_iff.mpr
    ⟨(flatten_runs actions).symm, nil_not_mem_runs actions,
      fun _ => isChain_of_mem_runs, isChain_runs actions⟩

------------------------------------------------------------
-- Neighbours
------------------------------------------------------------

/-
  Whether an action and its neighbour lie in one part of a
  list that was cut into parts. They are the ones behind
  `before`.
-/
def LieTogether
    (parts : List (List Action))
    (before : List Action)
    (a b : Action) : Prop :=
  ∃ earlier start rest later,
    parts = earlier ++ (start ++ a :: b :: rest) :: later ∧
      before = earlier.flatten ++ start

/- Whether an action ends a part and another begins the next. -/
def LieApart
    (parts : List (List Action))
    (a b : Action) : Prop :=
  ∃ earlier start rest later,
    parts =
      earlier ++ (start ++ [a]) :: (b :: rest) :: later

/- How actions lie does not depend on the parts before them. -/
theorem lieTogether_or_apart_cons
    {parts : List (List Action)}
    {before : List Action}
    (part : List Action)
    (hLie :
      LieTogether parts before a b ∨ LieApart parts a b) :
    LieTogether (part :: parts) (part ++ before) a b ∨
      LieApart (part :: parts) a b := by
  rcases hLie with
    ⟨earlier, start, rest, later, hParts, hBefore⟩ |
    ⟨earlier, start, rest, later, hParts⟩
  · left
    refine ⟨part :: earlier, start, rest, later, ?_, ?_⟩
    · rw [hParts, List.cons_append]
    · rw [hBefore, List.flatten_cons, List.append_assoc]
  · right
    refine ⟨part :: earlier, start, rest, later, ?_⟩
    rw [hParts, List.cons_append]

/- Neighbours lie in one part or in two that meet there. -/
theorem lieTogether_or_apart
    {parts : List (List Action)}
    {before after : List Action}
    (hNil : [] ∉ parts)
    (hFlatten : parts.flatten = before ++ a :: b :: after) :
    LieTogether parts before a b ∨ LieApart parts a b := by
  induction parts generalizing before with
  | nil => simp at hFlatten
  | cons part parts ih =>
      rw [List.flatten_cons] at hFlatten
      have hRest : [] ∉ parts :=
        fun hMem => hNil (List.mem_cons_of_mem _ hMem)
      rcases List.append_eq_append_iff.mp hFlatten with
        ⟨more, rfl, hParts⟩ | ⟨more, rfl, hTail⟩
      · exact lieTogether_or_apart_cons part (ih hRest hParts)
      · match more, hTail with
        | [], hTail =>
            -- The part ends right before the neighbours.
            have hParts :
                parts.flatten = [] ++ a :: b :: after :=
              hTail.symm
            have hLie :=
              lieTogether_or_apart_cons before
                (ih hRest hParts)
            rw [List.append_nil] at hLie ⊢
            exact hLie
        | [c], hTail =>
            -- The part ends between them.
            rcases List.cons.inj hTail with ⟨rfl, hNext⟩
            right
            match parts, hNext, hRest with
            | [] :: later, _, hRest =>
                exact absurd List.mem_cons_self hRest
            | (d :: rest) :: later, hNext, _ =>
                rcases List.cons.inj hNext with ⟨rfl, _⟩
                exact ⟨[], before, rest, later, rfl⟩
        | c :: d :: rest, hTail =>
            rcases List.cons.inj hTail with ⟨rfl, hNext⟩
            rcases List.cons.inj hNext with ⟨rfl, _⟩
            left
            exact ⟨[], before, rest, parts, rfl, rfl⟩

/- Neighbours lie together just if they type in one field. -/
theorem lieTogether_segments_iff
    {actions before after : List Action}
    (hActions : actions = before ++ a :: b :: after) :
    LieTogether (segments actions) before a b ↔
      TypesWith a b := by
  constructor
  · rintro ⟨earlier, start, rest, later, hParts, _⟩
    have hPart :
        start ++ a :: b :: rest ∈ segments actions := by
      rw [hParts]
      simp
    have hChain := List.isChain_of_mem_splitBy hPart
    exact isSameField_iff.mp hChain.right_of_append.rel
  · intro hTypes
    have hFlatten :
        (segments actions).flatten =
          before ++ a :: b :: after := by
      unfold segments
      rw [List.flatten_splitBy, hActions]
    rcases lieTogether_or_apart
        (List.nil_notMem_splitBy isSameField actions)
        hFlatten with
      hTogether | ⟨earlier, start, rest, later, hParts⟩
    · exact hTogether
    · have hCuts :=
        List.isChain_getLast_head_splitBy isSameField actions
      rw [hParts] at hCuts
      rcases hCuts.right_of_append.rel with ⟨_, _, hApart⟩
      rw [List.getLast_append_singleton, List.head_cons,
        isSameField_iff.mpr hTypes] at hApart
      cases hApart

------------------------------------------------------------
-- Entries
------------------------------------------------------------

/- There is one entry for each part that is typing or single. -/
theorem forall₂_segmentEntry?
    {settings : Settings}
    {parts : List (List Action)}
    (hNil : [] ∉ parts)
    (hChain :
      ∀ part ∈ parts,
        part.IsChain (fun a b => isSameField a b = true)) :
    List.Forall₂ (Entry.Covers settings) parts
      (parts.filterMap settings.segmentEntry?) := by
  induction parts with
  | nil => exact .nil
  | cons part parts ih =>
      cases part with
      | nil => exact absurd (by simp) hNil
      | cons first others =>
          have hEntry :
              settings.segmentEntry? (first :: others) =
                some (settings.entryFor first others) := rfl
          rw [List.filterMap_cons_some hEntry]
          refine .cons
            (Settings.covers_entryFor (hChain _ (by simp)))
            (ih ?_ ?_)
          · exact fun hMem =>
              hNil (List.mem_cons_of_mem _ hMem)
          · exact fun part hPart =>
              hChain part (List.mem_cons_of_mem _ hPart)

/-
  The actions of a page are cut into segments, of which none
  is empty and which are all of the page in order. Neighbours
  lie in one segment just if they type in one field, and each
  segment has one entry, which covers its actions.
-/
theorem Settings.entries_segments
    (settings : Settings)
    (actions : List Action) :
    segments actions = runs actions ∧
      (segments actions).flatten = actions ∧
      [] ∉ segments actions ∧
      (∀ before a b after,
        actions = before ++ a :: b :: after →
          (LieTogether (segments actions) before a b ↔
            TypesWith a b)) ∧
      List.Forall₂ (Entry.Covers settings) (segments actions)
        (settings.entries actions) :=
  ⟨segments_eq_runs actions,
    List.flatten_splitBy isSameField actions,
    List.nil_notMem_splitBy isSameField actions,
    fun _ _ _ _ => lieTogether_segments_iff,
    forall₂_segmentEntry?
      (List.nil_notMem_splitBy isSameField actions)
      fun _ => List.isChain_of_mem_splitBy⟩

end Plan

end Clickstream
