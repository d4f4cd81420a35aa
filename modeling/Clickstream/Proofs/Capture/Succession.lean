import Mathlib.Data.List.Chain
import Clickstream.Proofs.Capture.Candidates

/-
  Succession: what may be recorded right behind what. No
  action repeats its neighbour in the duplicate window, and no
  navigation goes where the one before it went.

  The checks of a recorder only look at what it remembers. The
  proof is that it remembers the end of what it has shown: the
  last action and the address of the last navigation.

  Key definitions:
    * `Settings.MayFollow`, `Action.LeadsOn`
    * `visits`: the navigations among some actions
    * `Recorder.Succeeds`: what is shown, and remembered

  Key theorems:
    * `Recorder.Succeeds.record`, `Recorder.Succeeds.after`
    * `Recorder.isChain_history_start`
-/

namespace Clickstream

/-
  Whether a navigation goes on from the one before it: it has
  no address, or another one.
-/
def Action.LeadsOn (last next : Action) : Prop :=
  next.url = none ∨ next.url ≠ last.url

namespace Capture

/-
  Whether an action may be recorded right behind another one:
  unless it is a navigation, in the duplicate window the two
  do not both send a form and are not of one kind, with one
  key, on one element in one frame.
-/
def Settings.MayFollow
    (settings : Settings)
    (last next : Action) : Prop :=
  next.isNavigation = false →
    next.timestamp - last.timestamp < settings.duplicateWindow →
      ¬ (last.kind = .submit ∧ next.kind = .submit) ∧
        ¬ (last.kind = next.kind ∧
          last.selector = next.selector ∧
          last.frames = next.frames ∧ last.key = next.key)

/- The navigations among some actions. -/
def visits (actions : List Action) : List Action :=
  actions.filter Action.isNavigation

theorem visits_append_singleton
    (shown : List Action)
    (action : Action)
    (hNavigation : action.isNavigation = true) :
    visits (shown ++ [action]) = visits shown ++ [action] := by
  unfold visits
  rw [List.filter_append,
    List.filter_cons_of_pos hNavigation, List.filter_nil]

theorem visits_append_singleton_of_not
    (shown : List Action)
    (action : Action)
    (hPlain : action.isNavigation = false) :
    visits (shown ++ [action]) = visits shown := by
  unfold visits
  rw [List.filter_append,
    List.filter_cons_of_neg (by simp [hPlain]),
    List.filter_nil, List.append_nil]

namespace Recorder

variable {r s : Recorder}
variable {shown : List Action}
variable {action : Action}

/-
  Whether what was shown since the start is in order, and the
  recorder remembers how it ends.
-/
structure Succeeds
    (shown : List Action)
    (r : Recorder) : Prop where
  neighbours : shown.IsChain r.settings.MayFollow
  visits : (visits shown).IsChain Action.LeadsOn
  lastRecorded : r.lastRecorded = shown.getLast?
  lastNavigation :
    r.lastNavigation =
      (Capture.visits shown).getLast?.bind Action.url

namespace Succeeds

/- Nothing is shown before the first action. -/
theorem begun
    (r : Recorder)
    (address : Option String) :
    (r.begun address).Succeeds [] where
  neighbours := List.IsChain.nil
  visits := List.IsChain.nil
  lastRecorded := rfl
  lastNavigation := rfl

/- Only what the checks look at matters. -/
theorem of_eq
    (hSucceeds : r.Succeeds shown)
    (hSettings : s.settings = r.settings)
    (hRecorded : s.lastRecorded = r.lastRecorded)
    (hNavigation : s.lastNavigation = r.lastNavigation) :
    s.Succeeds shown where
  neighbours := by
    rw [hSettings]
    exact hSucceeds.neighbours
  visits := hSucceeds.visits
  lastRecorded := hRecorded.trans hSucceeds.lastRecorded
  lastNavigation := hNavigation.trans hSucceeds.lastNavigation

/- An accepted action may follow the last one shown. -/
theorem mayFollow
    (hSucceeds : r.Succeeds shown)
    (hAccepts : r.Accepts action)
    {last : Action}
    (hLast : last ∈ shown.getLast?) :
    r.settings.MayFollow last (r.settings.sanitise action) := by
  intro hPlain hWindow
  have hPlain : action.isNavigation = false := hPlain
  have hNew : isRepeated r.settings last action = false := by
    have hRecorded : r.lastRecorded = some last :=
      hSucceeds.lastRecorded.trans hLast
    have hDuplicate := hAccepts.2
    unfold isDuplicate at hDuplicate
    rw [hRecorded, hPlain] at hDuplicate
    exact hDuplicate
  have hElapsed :
      last.elapsed action < r.settings.duplicateWindow :=
    hWindow
  unfold isRepeated at hNew
  rw [decide_eq_true hElapsed, Bool.true_and,
    Bool.or_eq_false_iff] at hNew
  constructor
  · rintro ⟨hLastKind, hKind⟩
    have hKind : action.kind = .submit := hKind
    have hBoth := hNew.1
    rw [hLastKind, hKind] at hBoth
    cases hBoth
  · intro hSame
    exact of_decide_eq_false hNew.2 hSame

/- An accepted navigation leads on from the last one shown. -/
theorem leadsOn
    (hSucceeds : r.Succeeds shown)
    (hAccepts : r.Accepts action)
    (hNavigation : action.isNavigation = true)
    {last : Action}
    (hLast : last ∈ (Capture.visits shown).getLast?) :
    last.LeadsOn (r.settings.sanitise action) := by
  have hUrl : r.lastNavigation = last.url := by
    rw [hSucceeds.lastNavigation, hLast]
    rfl
  have hAlive := hAccepts.1
  unfold isDeadNavigation at hAlive
  rw [hNavigation, hUrl, Bool.true_and] at hAlive
  cases hAddress : action.url with
  | none => exact Or.inl hAddress
  | some url =>
      rw [hAddress] at hAlive
      refine Or.inr ?_
      show action.url ≠ last.url
      rw [hAddress]
      exact of_decide_eq_false hAlive

/- An accepted action comes next, and is remembered. -/
theorem record_of_accepts
    (hSucceeds : r.Succeeds shown)
    (hAccepts : r.Accepts action) :
    (r.record action).1.Succeeds
      (shown ++ [r.settings.sanitise action]) := by
  have hNeighbours :
      (shown ++ [r.settings.sanitise action]).IsChain
        r.settings.MayFollow := by
    apply hSucceeds.neighbours.append
      (List.IsChain.singleton _)
    intro last hLast next hNext
    cases hNext
    exact hSucceeds.mayFollow hAccepts hLast
  have hLast :
      some (r.settings.sanitise action) =
        (shown ++ [r.settings.sanitise action]).getLast? :=
    List.getLast?_concat.symm
  rw [Recorder.record_of_accepts hAccepts]
  unfold follow
  cases hNavigation : action.isNavigation with
  | false =>
      have hVisits :=
        visits_append_singleton_of_not shown
          (r.settings.sanitise action) hNavigation
      constructor
      · exact hNeighbours
      · rw [hVisits]
        exact hSucceeds.visits
      · exact hLast
      · rw [hVisits]
        exact hSucceeds.lastNavigation
  | true =>
      have hVisits :=
        visits_append_singleton shown
          (r.settings.sanitise action) hNavigation
      constructor
      · exact hNeighbours
      · rw [hVisits]
        apply hSucceeds.visits.append
          (List.IsChain.singleton _)
        intro last hLast next hNext
        cases hNext
        exact hSucceeds.leadsOn hAccepts hNavigation hLast
      · exact hLast
      · rw [hVisits, List.getLast?_concat]
        rfl

/- A check keeps the order of what is shown. -/
theorem record
    (hSucceeds : r.Succeeds shown)
    (action : Action) :
    (r.record action).1.Succeeds
      (shown ++ (r.record action).2.toList) := by
  by_cases hAccepts : r.Accepts action
  · have hNext := hSucceeds.record_of_accepts hAccepts
    rw [Recorder.record_of_accepts hAccepts] at hNext ⊢
    exact hNext
  · rw [record_of_not_accepts hAccepts]
    dsimp only [Option.toList_none]
    rw [List.append_nil]
    exact hSucceeds

theorem settle
    (hSucceeds : r.Succeeds shown)
    (key : TimerKey)
    (action : Action) :
    (r.settle key action).1.Succeeds
      (shown ++ (r.settle key action).2.toList) := by
  by_cases hSettles : r.Settles key action
  · have hNext :=
      hSucceeds.record_of_accepts hSettles.accepts
    rw [settle_of_settles hSettles]
    cases key <;> exact hNext.of_eq rfl rfl rfl
  · rw [settle_of_not_settles hSettles]
    dsimp only [Option.toList_none]
    rw [List.append_nil]
    exact hSucceeds

theorem judge
    (hSucceeds : r.Succeeds shown)
    (candidate : Candidate) :
    (r.judge candidate).1.Succeeds
      (shown ++ (r.judge candidate).2.toList) := by
  unfold Recorder.judge
  split
  · exact hSucceeds.settle _ _
  · exact hSucceeds.record _

/- So do all the checks of a run. -/
theorem judgeAll
    (hSucceeds : r.Succeeds shown)
    (candidates : List Candidate) :
    (r.judgeAll candidates).1.Succeeds
      (shown ++ (r.judgeAll candidates).2) := by
  induction candidates generalizing r shown with
  | nil =>
      dsimp only [Recorder.judgeAll]
      rw [List.append_nil]
      exact hSucceeds
  | cons candidate candidates ih =>
      rw [Recorder.judgeAll, ← List.append_assoc]
      exact ih (hSucceeds.judge candidate)

/- What a run records goes on from what was shown before. -/
theorem after
    {commands : List Command}
    (hSucceeds : r.Succeeds shown)
    (hOngoing : ∀ command ∈ commands, command.IsOngoing) :
    (r.after commands).Succeeds
      (shown ++ r.history commands) := by
  have hJudges : Judges r _ _ := judges_stream hOngoing
  have hRecorded :
      r.history commands =
        (r.judgeAll (r.stream commands)).2 :=
    hJudges.recorded
  rw [hRecorded]
  exact (hSucceeds.judgeAll (r.stream commands)).of_eq
    hJudges.agrees.settings hJudges.agrees.lastRecorded
    hJudges.agrees.lastNavigation

end Succeeds

/- A start shows the way to its address, if it has one. -/
theorem succeeds_start
    (r : Recorder)
    (address : Option String)
    (now : Nat) :
    (r.execute (.start address now)).1.Succeeds
      (r.recorded (.start address now)) := by
  have hBegun := Succeeds.begun r address
  cases address with
  | none => exact hBegun
  | some url =>
      have hFirst := hBegun.record (Action.navigate url none now)
      unfold recorded
      rw [execute_start_some]
      exact hFirst

/-
  Among all that is recorded from a start on, no action
  repeats the one before it in the duplicate window, and no
  navigation goes where the one before it went.
-/
theorem isChain_history_start
    (r : Recorder)
    (address : Option String)
    (now : Nat)
    (commands : List Command)
    (hOngoing : ∀ command ∈ commands, command.IsOngoing) :
    (r.history (.start address now :: commands)).IsChain
        r.settings.MayFollow ∧
      ((r.history (.start address now :: commands)).filter
          Action.isNavigation).IsChain
        Action.LeadsOn := by
  have hRun := (r.succeeds_start address now).after hOngoing
  have hNeighbours := hRun.neighbours
  rw [settings_after, settings_execute] at hNeighbours
  exact ⟨hNeighbours, hRun.visits⟩

/-
  A form is sent twice at once, a key is pressed twice, and
  the page goes to where it is, and then somewhere unknown.
-/
def hurry : List Command :=
  [.append { kind := .submit, timestamp := 10 },
    .append
      { kind := .submit
        selector := some (Selector.name "send")
        timestamp := 300 },
    .append { kind := .keypress, key := some "a", timestamp := 310 },
    .append { kind := .keypress, key := some "a", timestamp := 309 },
    .append { kind := .keypress, key := some "b", timestamp := 309 },
    .append (Action.navigate "/a" none 320),
    .append { kind := .navigate, timestamp := 321 },
    .append (Action.navigate "/a" none 322)]

theorem isChain_history_hurry :
    (∀ command ∈ hurry, command.IsOngoing) ∧
      ((new {}).history (.start (some "/a") 0 :: hurry)).map
          (fun action => (action.kind, action.timestamp)) =
        [(.navigate, 0), (.submit, 10), (.keypress, 310),
          (.keypress, 309), (.navigate, 321),
          (.navigate, 322)] ∧
      ((new {}).history (.start (some "/a") 0 :: hurry)).IsChain
          (Settings.MayFollow {}) ∧
      (((new {}).history
          (.start (some "/a") 0 :: hurry)).filter
          Action.isNavigation).IsChain
        Action.LeadsOn := by
  have hOngoing :
      ∀ command ∈ hurry, command.IsOngoing := by
    simp [hurry, Command.IsOngoing]
  exact ⟨hOngoing, by decide,
    (new {}).isChain_history_start (some "/a") 0 hurry
      hOngoing⟩

end Recorder

end Capture

end Clickstream
