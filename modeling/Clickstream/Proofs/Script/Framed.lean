import Clickstream.Script.File
import Clickstream.Proofs.Plan.Deeds
import Clickstream.Proofs.Script.Vocabulary

/-
  Frames: how a test reaches what is inside of frames. What is
  done for an action is called on the element of the action,
  and the way there leads from the page through every frame.
  Only what concerns the page as a whole goes no such way.

  Key definitions:
    * `Target.place`: what an action was done to
    * `Operation.IsPageWide`
    * `Language.enter`, `Language.chain`

  Key theorems:
    * `Plan.entriesDeeds_build`
    * `Plan.exists_on_place`
    * `Dialect.exists_mem_fileLines`
    * `Language.exists_chain_of_mem_deedsOf`
-/

namespace Clickstream

------------------------------------------------------------
-- Places
------------------------------------------------------------

/-
  What an action was done to: its element, or else the root
  element of the document in which it was done.
-/
def Target.place (action : Action) : Target :=
  (Target.of? action).getD (Target.document action.frames)

/-
  Whether what is done for an action concerns the page as a
  whole: the raw button of the mouse, a wait, a remark, the
  address of a navigation, and a key without an element.
-/
def Operation.IsPageWide (action : Action) : Operation → Prop
  | .mouseDown | .mouseUp | .settleWait _ | .note _ => True
  | .goto _ => action.kind = .navigate
  | .press none _ =>
      action.kind = .keypress ∧ action.selector = none
  | _ => False

namespace Target

variable {action : Action}
variable {t : Target}

theorem place_of_some
    (hTarget : Target.of? action = some t) :
    Target.place action = t := by
  unfold place
  rw [hTarget, Option.getD_some]

theorem place_of_none
    (hTarget : Target.of? action = none) :
    Target.place action = Target.document action.frames := by
  unfold place
  rw [hTarget, Option.getD_none]

/- Every action was done inside of its frames. -/
theorem frames_place (action : Action) :
    (Target.place action).frames = action.frames := by
  cases hTarget : Target.of? action with
  | none =>
      rw [place_of_none hTarget]
      rfl
  | some t =>
      rw [place_of_some hTarget]
      rcases Option.map_eq_some_iff.mp hTarget with
        ⟨selector, _, rfl⟩
      rfl

end Target

namespace Plan

variable {settings : Settings}
variable {action : Action}
variable {operation : Operation}
variable {operations : List Operation}

/- What is done to an element is a call on it. -/
theorem exists_on_of_isOn
    {t : Target}
    (hOn : operation.IsOn t) :
    operation.IsPageWide action ∨
      ∃ method arguments,
        Script.Call.of? operation =
          some (.on t method arguments) := by
  cases operation with
  | goto url => cases hOn
  | scrollWindow frames x y => cases hOn
  | settleWait ms => cases hOn
  | note text => cases hOn
  | mouseDown => exact Or.inl trivial
  | mouseUp => exact Or.inl trivial
  | click u button =>
      cases hOn
      cases button <;> exact Or.inr ⟨_, _, rfl⟩
  | _ =>
      cases hOn
      exact Or.inr ⟨_, _, rfl⟩

/-
  What a step does inside of frames is a call on the place of
  its action, unless it concerns the page as a whole.
-/
theorem exists_on_place_of_course
    (hFrames : action.frames ≠ [])
    (hCourse : Step.Course action operations)
    (hOperation : operation ∈ operations) :
    operation.IsPageWide action ∨
      ∃ method arguments,
        Script.Call.of? operation =
          some (.on (Target.place action) method
            arguments) := by
  cases hCourse with
  | element hTarget hOn =>
      rw [Target.place_of_some hTarget]
      exact exists_on_of_isOn (hOn operation hOperation)
  | address hKind hUrl =>
      rw [List.mem_singleton.mp hOperation]
      exact Or.inl hKind
  | key hKind hNone =>
      rw [List.mem_singleton.mp hOperation]
      exact Or.inl ⟨hKind, Option.map_eq_none_iff.mp hNone⟩
  | window hNone =>
      -- The window of a frame is scrolled by its root element.
      rw [List.mem_singleton.mp hOperation,
        Target.place_of_none hNone]
      have hInside : ¬ action.frames.isEmpty = true := by
        simpa using hFrames
      exact Or.inr ⟨_, _, congrArg some (if_neg hInside)⟩
  | wait hKind hNone =>
      rw [List.mem_singleton.mp hOperation]
      exact Or.inl trivial

theorem exists_on_place
    (hFrames : action.frames ≠ [])
    (hOperation : operation ∈ settings.deedsOf action) :
    operation.IsPageWide action ∨
      ∃ method arguments,
        Script.Call.of? operation =
          some (.on (Target.place action) method
            arguments) := by
  unfold Settings.deedsOf at hOperation
  split at hOperation
  · rename_i url hAddress
    rw [List.mem_singleton.mp hOperation]
    exact Or.inl (kind_of_address?_eq_some hAddress).1
  · split at hOperation
    · rename_i step hStep
      exact exists_on_place_of_course hFrames
        (Settings.course_of_stepFor hStep)
        (List.mem_filter.mp hOperation).1
    · rw [List.mem_singleton.mp hOperation]
      exact Or.inl trivial

------------------------------------------------------------
-- Plans
------------------------------------------------------------

/- What opens a test is an address, and maybe a wait. -/
theorem mem_opening_build
    {fallback : Option String}
    {actions : List Action}
    (hOperation :
      operation ∈ (build settings fallback actions).opening) :
    operation.isWait = true ∨ ∃ url, operation = .goto url := by
  unfold build Settings.opening at hOperation
  dsimp only at hOperation
  split at hOperation
  · rename_i url _
    rcases List.mem_cons.mp hOperation with rfl | hWait
    · exact Or.inr ⟨url, rfl⟩
    · unfold Settings.waitBefore at hWait
      split at hWait
      · cases hWait
      · rw [List.mem_singleton.mp hWait]
        exact Or.inl rfl
  · cases hOperation

/- No remark opens a test. -/
theorem isNote_of_mem_opening_build
    {fallback : Option String}
    {actions : List Action}
    (hOperation :
      operation ∈ (build settings fallback actions).opening) :
    operation.isNote = false := by
  rcases mem_opening_build hOperation with
    hWait | ⟨url, rfl⟩
  · cases operation with
    | note text => cases hWait
    | _ => rfl
  · rfl

/-
  A test is opened for the first action of a recording. Behind
  that it does what the others stand for, one after the other.
-/
theorem entriesDeeds_build
    (settings : Settings)
    (fallback : Option String)
    (actions : List Action) :
    entriesDeeds (build settings fallback actions).entries =
      (clean settings actions).tail.flatMap
        settings.deedsOf := by
  unfold build
  dsimp only
  cases hClean : clean settings actions with
  | nil => rfl
  | cons first rest =>
      rcases address?_of_clean_eq_cons hClean with
        ⟨url, hAddress⟩
      have hMoves := moves_clean settings actions
      rw [hClean] at hMoves
      have hRest := ((moves_cons_of_some hAddress).mp hMoves).2
      have hSplit :
          Page.split (first :: rest) =
            Page.splitAt url rest := by
        unfold Page.split
        rw [hAddress]
      rw [hSplit, List.tail_cons]
      exact entriesDeeds_splitAt hRest

end Plan

------------------------------------------------------------
-- Lines
------------------------------------------------------------

namespace Script

namespace Dialect

variable {d : Dialect}
variable {operation : Operation}

theorem exists_mem_entryLines
    {entry : Entry}
    (hOperation : operation ∈ entry.operations) :
    ∃ depth,
      d.bodyLine depth (d.operation operation) ∈
        d.entryLines entry := by
  cases entry with
  | skipped reason =>
      rw [List.mem_singleton.mp hOperation]
      exact ⟨0, List.mem_singleton_self _⟩
  | step step =>
      refine ⟨1, ?_⟩
      unfold entryLines
      dsimp only
      unfold stepLines
      apply List.mem_append_left
      apply List.mem_append_left
      exact List.mem_cons_of_mem _
        (List.mem_map_of_mem hOperation)

/- Whatever a plan does has a line in its file. -/
theorem exists_mem_fileLines
    (d : Dialect)
    (testName placeholderUrl : String)
    {plan : Plan}
    (hOperation : operation ∈ plan.operations) :
    ∃ depth,
      d.bodyLine depth (d.operation operation) ∈
        d.fileLines testName placeholderUrl plan := by
  unfold fileLines
  rcases List.mem_append.mp hOperation with
    hOpening | hEntries
  · have hSome : ¬ plan.opening.isEmpty = true := by
      simpa using List.ne_nil_of_mem hOpening
    refine ⟨0, ?_⟩
    apply List.mem_append_left
    apply List.mem_append_left
    apply List.mem_append_left
    apply List.mem_append_right
    unfold openingLines
    rw [if_neg hSome]
    exact List.mem_map_of_mem hOpening
  · rcases List.mem_flatMap.mp hEntries with
      ⟨entry, hEntry, hOperation⟩
    rcases exists_mem_entryLines hOperation with
      ⟨depth, hLine⟩
    refine ⟨depth, ?_⟩
    apply List.mem_append_left
    apply List.mem_append_left
    apply List.mem_append_right
    exact List.mem_flatMap.mpr
      ⟨entry, hEntry, List.mem_cons_of_mem _ hLine⟩

end Dialect

end Script

------------------------------------------------------------
-- Chains
------------------------------------------------------------

namespace Language

/- The accessor for what an inner document has in it. -/
def frameAccessor : Language → String
  | .python => "frame_locator"
  | _ => "frameLocator"

/- Enter an inner document or the tree of a shadow host. -/
def enter
    (language : Language)
    (frame : Frame) : String :=
  "." ++
    (match frame.kind with
      | .iframe => language.frameAccessor
      | .shadow => "locator") ++
    "(" ++ language.dialect.quote frame.selector.toCss ++ ")"

/-
  The way to an element: the page, every frame from the
  outside to the inside, and then the element.
-/
def chain
    (language : Language)
    (frames : FramePath)
    (selector : Selector) : String :=
  "page" ++ String.join (frames.map language.enter) ++
    language.dialect.element selector
      (Script.Dialect.scopeAfter frames)

theorem hop_dialect
    (language : Language)
    (frame : Frame) :
    language.dialect.hop frame = language.enter frame := by
  rcases frame with ⟨kind, selector⟩
  cases kind <;> cases language <;> rfl

theorem locator_dialect
    (language : Language)
    (target : Target) :
    language.dialect.locator target =
      language.chain target.frames target.selector := by
  have hPage : language.dialect.objectName .page = "page" := by
    cases language <;> rfl
  have hHops : language.dialect.hop = language.enter :=
    funext language.hop_dialect
  unfold Script.Dialect.locator chain
  rw [hPage, hHops]

/- An inner document. -/
def innerFrame : Frame :=
  ⟨.iframe, Selector.cssPath "#f"⟩

example :
    python.chain
        [innerFrame, ⟨.shadow, Selector.cssPath "#s"⟩]
        (Selector.cssPath "#b") =
      "page.frame_locator(\"#f\").locator(\"#s\")" ++
        ".locator(\"#b\")" := by
  decide

/-
  Every operation of a test has its line, and those of an
  action inside of frames are calls at the end of the chain
  through these frames, unless they concern the page as a
  whole. The operations of a test are those of its actions,
  one after the other, apart from waits in between; it is
  opened for the first action, which is a navigation.
-/
theorem exists_chain_of_mem_deedsOf
    (language : Language)
    (settings : Plan.Settings)
    (testName : String)
    (fallback : Option String)
    (actions : List Action) :
    (∃ lines,
        Script.generate settings language testName fallback
            actions =
          Text.unlines lines ∧
        ∀ operation ∈
            (Plan.build settings fallback actions).operations,
          ∃ depth,
            language.dialect.bodyLine depth
              (language.dialect.operation operation) ∈ lines) ∧
      (∀ operation ∈
          (Plan.build settings fallback actions).opening,
        operation.isWait = true ∨
          ∃ url, operation = .goto url) ∧
      Plan.entriesDeeds
          (Plan.build settings fallback actions).entries =
        (Plan.clean settings actions).tail.flatMap
          settings.deedsOf ∧
      ∀ action ∈ Plan.clean settings actions,
        action.frames ≠ [] →
          ∀ operation ∈ settings.deedsOf action,
            operation.IsPageWide action ∨
              ∃ (method : Script.Method)
                (arguments : List Script.Argument),
                language.dialect.operation operation =
                  language.dialect.statement
                    (language.chain action.frames
                        (Target.place action).selector ++
                      "." ++ language.dialect.methodName method ++
                      "(" ++
                      Script.Dialect.commas
                        (arguments.map
                          language.dialect.argument) ++
                      ")") := by
  refine ⟨⟨_, rfl, ?_⟩, ?_, ?_, ?_⟩
  · intro operation hOperation
    exact language.dialect.exists_mem_fileLines testName
      settings.placeholderUrl hOperation
  · exact fun _ => Plan.mem_opening_build
  · exact Plan.entriesDeeds_build settings fallback actions
  · intro action _ hFrames operation hOperation
    rcases Plan.exists_on_place hFrames hOperation with
      hWide | ⟨method, arguments, hCall⟩
    · exact Or.inl hWide
    · refine Or.inr ⟨method, arguments, ?_⟩
      rw [language.dialect.operation_of_call hCall,
        ← Target.frames_place action,
        ← language.locator_dialect]
      rfl

/- A page and a key, both recorded inside of that document. -/
def innerKey : List Action :=
  [{ Action.navigate "/a" none 0 with frames := [innerFrame] },
    { kind := .keypress
      frames := [innerFrame]
      key := some "Escape"
      timestamp := 5 }]

/-
  Addresses and keys without an element go around the frames
  of their actions.
-/
theorem address_and_key_on_page :
    (∀ action ∈ innerKey, action.frames = [innerFrame]) ∧
      Plan.clean {} innerKey = innerKey ∧
      innerKey.map ({} : Plan.Settings).deedsOf =
        [[.goto "/a"], [.press none "Escape"]] ∧
      python.dialect.operation (.goto "/a") =
        "page.goto(\"/a\")" ∧
      python.dialect.operation (.press none "Escape") =
        "page.keyboard.press(\"Escape\")" ∧
      ∀ operation ∈
          [Operation.goto "/a", .press none "Escape"],
        ¬ (python.dialect.statement
              ("page" ++ python.enter innerFrame)).toList <+:
            (python.dialect.operation operation).toList := by
  refine ⟨?_, ?_, ?_, ?_, ?_, ?_⟩ <;> decide

end Language

end Clickstream
