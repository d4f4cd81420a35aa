import Clickstream.Proofs.Plan.Sieving

/-
  What a control ends up holding: the last action of a kind on
  an element, before cleaning and after it. That action stays,
  unless it is dropped as a repetition; then the action that
  it repeats is the last one.

  Key definitions:
    * `Aim`, `Action.aim`
    * `lastWith`: the last action with an aim
    * `Settings.Repeats`

  Key theorems:
    * `lastWith_eq_some_iff`
    * `Sieve.isSignal_of_mem`
    * `exists_lastWith_prefilter`
-/

namespace Clickstream

/-
  What is done to which element, apart from how: the kind of
  an action, the element, and the frames it is in.
-/
structure Aim where
  kind : Action.Kind
  selector : Option Selector
  frames : FramePath
deriving DecidableEq, Repr

namespace Action

/- The aim of an action. -/
def aim (a : Action) : Aim :=
  ⟨a.kind, a.selector, a.frames⟩

/- On the same target, and with the same key, aims agree. -/
theorem SameTarget.aim_eq
    {a b : Action}
    (hSame : a.SameTarget b) :
    a.aim = b.aim := by
  rcases hSame with ⟨hKind, hSelector, hFrames, _⟩
  unfold aim
  rw [hKind, hSelector, hFrames]

end Action

namespace Plan

variable {settings : Settings}
variable {aim : Aim}
variable {action last kept : Action}
variable {actions before after : List Action}

------------------------------------------------------------
-- The Last Action
------------------------------------------------------------

/- The last of some actions with an aim. -/
def lastWith
    (aim : Aim)
    (actions : List Action) : Option Action :=
  actions.reverse.find? (fun a => a.aim = aim)

/- Nothing with that aim comes after the last action. -/
theorem lastWith_eq_some_iff :
    lastWith aim actions = some last ↔
      last.aim = aim ∧
        ∃ before after,
          actions = before ++ last :: after ∧
            ∀ a ∈ after, a.aim ≠ aim := by
  unfold lastWith
  rw [List.find?_eq_some_iff_append, decide_eq_true_eq]
  refine and_congr_right fun _ => ?_
  constructor
  · rintro ⟨later, earlier, hSplit, hLater⟩
    refine ⟨earlier.reverse, later.reverse, ?_, ?_⟩
    · rw [← List.reverse_reverse actions, hSplit,
        List.reverse_append, List.reverse_cons,
        List.append_assoc, List.singleton_append]
    · intro a ha
      simpa using hLater a (List.mem_reverse.mp ha)
  · rintro ⟨before, after, rfl, hAfter⟩
    refine ⟨after.reverse, before.reverse, ?_, ?_⟩
    · rw [List.reverse_append, List.reverse_cons,
        List.append_assoc, List.singleton_append]
    · intro a ha
      simpa using hAfter a (List.mem_reverse.mp ha)

------------------------------------------------------------
-- Cleaning
------------------------------------------------------------

/- What changes the value of a control is never just noise. -/
theorem Sieve.isSignal_of_mem
    (hKind :
      action.kind ∈
        [Action.Kind.type, .check, .select, .upload])
    (sieve : Sieve) :
    sieve.isSignal settings action = true := by
  unfold isSignal
  simp only [List.mem_cons, List.not_mem_nil, or_false]
    at hKind
  rcases hKind with hKind | hKind | hKind | hKind <;>
    rw [hKind]

/- What is remembered last is the last action kept. -/
theorem Sieve.last_after_empty
    (settings : Settings)
    (actions : List Action) :
    (Sieve.after {} settings actions).last =
      (prefilter settings actions).getLast? := by
  rw [last_after, Option.or_none]
  rfl

/-
  Whether an action is the last with its aim and repeats the
  action kept right before it: that one is on the same target,
  and the time between them is shorter than the window.
-/
structure Settings.Repeats
    (settings : Settings)
    (before after : List Action)
    (kept last : Action) : Prop where
  isKept : (prefilter settings before).getLast? = some kept
  sameTarget : kept.SameTarget last
  inWindow :
    last.timestamp - kept.timestamp < settings.duplicateWindow
  isLast : ∀ a ∈ after, a.aim ≠ last.aim

/- What is kept of actions has no aim that they do not have. -/
theorem forall_mem_keep_aim_ne
    (hAfter : ∀ a ∈ after, a.aim ≠ aim)
    (sieve : Sieve)
    (settings : Settings) :
    ∀ a ∈ sieve.keep settings after, a.aim ≠ aim :=
  fun a ha =>
    hAfter a ((sieve.keep_sublist settings after).subset ha)

/- An action that passes stays the last with its aim. -/
theorem lastWith_prefilter_of_passes
    (hPasses :
      (Sieve.after {} settings before).passes settings last =
        true)
    (hAfter : ∀ a ∈ after, a.aim ≠ last.aim) :
    lastWith last.aim
        (prefilter settings (before ++ last :: after)) =
      some last := by
  refine lastWith_eq_some_iff.mpr
    ⟨rfl, prefilter settings before, _, ?_,
      forall_mem_keep_aim_ne hAfter
        ((Sieve.after {} settings before).next settings last)
        settings⟩
  unfold prefilter
  rw [Sieve.keep_append, Sieve.keep_cons_of_passes hPasses]

/- Behind a repetition the action it repeats is the last. -/
theorem lastWith_prefilter_of_repeats
    (hPasses :
      ¬ (Sieve.after {} settings before).passes settings last =
        true)
    (hRepeats : settings.Repeats before after kept last) :
    lastWith last.aim
        (prefilter settings (before ++ last :: after)) =
      some kept := by
  rcases List.getLast?_eq_some_iff.mp hRepeats.isKept with
    ⟨earlier, hEarlier⟩
  refine lastWith_eq_some_iff.mpr
    ⟨hRepeats.sameTarget.aim_eq, earlier, _, ?_,
      forall_mem_keep_aim_ne hRepeats.isLast
        ((Sieve.after {} settings before).next settings last)
        settings⟩
  unfold prefilter at hEarlier ⊢
  rw [Sieve.keep_append, Sieve.keep_cons_of_not_passes hPasses,
    hEarlier, List.append_assoc, List.singleton_append]

/-
  A control that was typed into, ticked, chosen from or given
  files still is after cleaning. The last such action is the
  same, value and all, unless it repeats the one kept right
  before it, which then is the last.
-/
theorem exists_lastWith_prefilter
    (settings : Settings)
    (actions : List Action)
    (aim : Aim)
    (hKind :
      aim.kind ∈ [Action.Kind.type, .check, .select, .upload])
    (last : Action)
    (hLast : lastWith aim actions = some last) :
    ∃ kept,
      lastWith aim (prefilter settings actions) = some kept ∧
        (kept = last ∨
          ∃ before after,
            actions = before ++ last :: after ∧
              settings.Repeats before after kept last) := by
  rcases lastWith_eq_some_iff.mp hLast with
    ⟨rfl, before, after, rfl, hAfter⟩
  by_cases hPasses :
      (Sieve.after {} settings before).passes settings last =
        true
  · exact ⟨last, lastWith_prefilter_of_passes hPasses hAfter,
      Or.inl rfl⟩
  · have hRepeated :
        (Sieve.after {} settings before).isRepeated settings
          last = true :=
      Decidable.byContradiction fun hNew =>
        hPasses (Sieve.passes_iff.mpr
          ⟨Sieve.isSignal_of_mem hKind _, hNew⟩)
    rcases Sieve.isRepeated_iff.mp hRepeated with
      ⟨_, kept, hKept, hSame, hWindow⟩
    rw [Sieve.last_after_empty] at hKept
    have hRepeats : settings.Repeats before after kept last :=
      ⟨hKept, hSame, hWindow, hAfter⟩
    exact ⟨kept, lastWith_prefilter_of_repeats hPasses hRepeats,
      Or.inr ⟨before, after, rfl, hRepeats⟩⟩

/- A box is ticked or unticked. -/
def tick (on : Bool) (time : Nat) : Action :=
  { kind := .check
    selector := some (Selector.name "news")
    checked := some on
    timestamp := time }

/- The box is on, and off again a second later. -/
theorem exists_lastWith_prefilter_tick :
    (tick true 0).aim.kind ∈
        [Action.Kind.type, .check, .select, .upload] ∧
      lastWith (tick true 0).aim
          [tick true 0, tick false 1000] =
        some (tick false 1000) ∧
      ∃ kept,
        lastWith (tick true 0).aim
            (prefilter {} [tick true 0, tick false 1000]) =
          some kept ∧
        (kept = tick false 1000 ∨
          ∃ before after,
            [tick true 0, tick false 1000] =
                before ++ tick false 1000 :: after ∧
              Settings.Repeats {} before after kept
                (tick false 1000)) := by
  have hKind :
      (tick true 0).aim.kind ∈
        [Action.Kind.type, .check, .select, .upload] := by
    decide
  have hLast :
      lastWith (tick true 0).aim
          [tick true 0, tick false 1000] =
        some (tick false 1000) := by
    decide
  exact ⟨hKind, hLast,
    exists_lastWith_prefilter {} _ _ hKind _ hLast⟩

/- A box that is off again right away ends up on. -/
theorem prefilter_tick_lost :
    lastWith (tick true 0).aim [tick true 0, tick false 500] =
        some (tick false 500) ∧
      lastWith (tick true 0).aim
          (prefilter {} [tick true 0, tick false 500]) =
        some (tick true 0) ∧
      (tick true 0).checked ≠ (tick false 500).checked := by
  decide

end Plan

end Clickstream
