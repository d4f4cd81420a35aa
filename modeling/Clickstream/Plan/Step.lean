import Clickstream.Text.Blank
import Clickstream.Text.Split
import Clickstream.Action.Keys
import Clickstream.Plan.Operation
import Clickstream.Plan.Settings

/-
  Steps: what a test does for one action or for one burst of
  typing, under a title. An action that lacks what its step
  needs is refused with a reason.

  Key definitions:
    * `Step`, `Entry`
    * `Refusal`, `Refusal.message`
    * `Settings.stepFor`: the operations of one action
    * `Plan.isSameField`, `Plan.segments`
    * `Settings.entryFor`: the entry of a segment
    * `Settings.entries`: the entries of one page
-/

namespace Clickstream

------------------------------------------------------------
-- Steps
------------------------------------------------------------

/- Operations under a title. -/
structure Step where
  title : String
  operations : List Operation
deriving DecidableEq, Repr, Inhabited

/- A step of a test, or a remark in place of one. -/
inductive Entry where
  | step (step : Step)
  | skipped (reason : String)
deriving DecidableEq, Repr, Inhabited

/- The step of an entry. -/
def Entry.step? : Entry → Option Step
  | .step s => some s
  | .skipped _ => none

------------------------------------------------------------
-- Refusals
------------------------------------------------------------

/- Why there is no step for an action. -/
inductive Refusal where
  | noSelector (kind : Action.Kind)
  | noChoice (selector : Selector)
  | noFileName (selector : Selector)
  | noUrl
  | noKey
  | unsupported (name : String)
deriving DecidableEq, Repr, Inhabited

namespace Refusal

/- The wording of a refusal. -/
def message : Refusal → String
  | .noSelector kind =>
      kind.wireName ++ " action without selector"
  | .noChoice selector =>
      "select on " ++ selector.describe ++ " without a value"
  | .noFileName selector =>
      "upload on " ++ selector.describe ++
        " without a file name"
  | .noUrl => "navigate action without url"
  | .noKey => "keypress action without key"
  | .unsupported name =>
      "unsupported action type '" ++ name ++ "'"

/- A refusal as it stands in a test. -/
def remark (refusal : Refusal) : String :=
  "Skipped: " ++ refusal.message

end Refusal

namespace Plan

------------------------------------------------------------
-- Parts of Actions
------------------------------------------------------------

/- The element of an action that cannot do without one. -/
def target (action : Action) : Except Refusal Target :=
  match Target.of? action with
  | some t => .ok t
  | none => .error (.noSelector action.kind)

/- A title that names an element. -/
def titleOn
    (verb : String)
    (t : Target) : String :=
  verb ++ " on " ++ t.selector.describe

/- A step with one operation on the element of an action. -/
def stepOn
    (verb : String)
    (operation : Target → Operation)
    (action : Action) : Except Refusal Step := do
  let t ← target action
  return ⟨titleOn verb t, [operation t]⟩

/-
  Whether a box was ticked. An action that does not tell was
  done to tick it, and a radio button is never unticked.
-/
def isTicked (action : Action) : Bool :=
  let told :=
    match action.checked, action.value with
    | some on, _ => on
    | none, some (.flag on) => on
    | none, _ => true
  told || action.inputType = some "radio"

/- The file names that an upload tells. -/
def uploadedFiles (action : Action) : List String :=
  (Text.splitList (action.valueText?.getD "")).filterMap
    Text.nonBlank

/- The choices that a selection tells. -/
def choices (action : Action) : List String :=
  match action.value with
  | some value => value.toList
  | none => []

------------------------------------------------------------
-- Steps of Single Actions
------------------------------------------------------------

/- The step that fills a field. -/
def typeStep (action : Action) : Except Refusal Step := do
  let t ← target action
  return ⟨"Type in " ++ t.selector.describe,
    [.fill t (action.valueText?.getD "")]⟩

/- The step that ticks or unticks a box. -/
def checkStep (action : Action) : Except Refusal Step :=
  if isTicked action then stepOn "Check" .check action
  else stepOn "Uncheck" .uncheck action

/- The step that chooses from a list. -/
def selectStep (action : Action) : Except Refusal Step := do
  let t ← target action
  let values := choices action
  if values = [] then throw (.noChoice t.selector)
  return ⟨titleOn "Select" t,
    [.selectOption t values
      (action.multiple = some true || 1 < values.length)]⟩

/- The step that hands files over. -/
def uploadStep (action : Action) : Except Refusal Step := do
  let t ← target action
  let files := uploadedFiles action
  if files = [] then throw (.noFileName t.selector)
  return ⟨titleOn "Upload" t, [.setInputFiles t files]⟩

/- The step that opens an address. -/
def openStep (url : String) : Step :=
  ⟨"Navigate to " ++ url, [.goto url]⟩

/- The step that goes where a navigation went. -/
def navigateStep (action : Action) : Except Refusal Step :=
  match action.url with
  | some url => .ok (openStep url)
  | none => .error .noUrl

/- The step that presses a key, on an element or the page. -/
def keyStep (action : Action) : Except Refusal Step :=
  match action.key.filter (fun key => key ≠ "") with
  | none => .error .noKey
  | some key =>
      let modifiers := action.modifiers.getD {}
      let pressed := Keys.describe key modifiers
      let t := Target.of? action
      .ok ⟨match t with
          | some t => titleOn pressed t
          | none => pressed,
        [.press t (Keys.chord key modifiers)]⟩

/- The step that scrolls an element or a window. -/
def scrollStep (action : Action) : Step :=
  let (x, y) := action.position
  match Target.of? action with
  | some t => ⟨titleOn "Scroll" t, [.scrollElement t x y]⟩
  | none =>
      ⟨"Scroll to (" ++ toString x ++ ", " ++ toString y ++ ")",
        [.scrollWindow action.frames x y]⟩

/- The step that waits for an element, or a fixed time. -/
def waitStep
    (settings : Settings)
    (action : Action) : Step :=
  match Target.of? action with
  | some t => ⟨titleOn "Wait" t, [.waitFor t]⟩
  | none => ⟨"Wait", [.settleWait settings.settleWait]⟩

/- The step that moves to an element and works the button. -/
def dragStep
    (verb : String)
    (button : Operation)
    (action : Action) : Except Refusal Step := do
  let t ← target action
  return ⟨titleOn verb t, [.hover t, button]⟩

/-
  The step that sends a form: the form itself, or a click on
  the control that sends it.
-/
def submitStep (action : Action) : Except Refusal Step := do
  let t ← target action
  return ⟨"Submit form",
    [if action.tagName = some "form" then .requestSubmit t
      else .click t .left]⟩

/- The step for one action. -/
def Settings.stepFor
    (settings : Settings)
    (action : Action) : Except Refusal Step :=
  match action.kind with
  | .click => stepOn "Click" (.click · .left) action
  | .doubleClick => stepOn "Double-click" .doubleClick action
  | .rightClick =>
      stepOn "Right-click" (.click · .right) action
  | .type => typeStep action
  | .check => checkStep action
  | .select => selectStep action
  | .upload => uploadStep action
  | .navigate => navigateStep action
  | .hover => stepOn "Hover" .hover action
  | .focus => stepOn "Focus" .focus action
  | .blur => stepOn "Blur" .blur action
  | .wait => .ok (waitStep settings action)
  | .keypress => keyStep action
  | .scroll => .ok (scrollStep action)
  | .dragStart => dragStep "Drag" .mouseDown action
  | .drop => dragStep "Drop" .mouseUp action
  | .submit => submitStep action
  | .other name => .error (.unsupported name)

------------------------------------------------------------
-- Segments
------------------------------------------------------------

/- Whether an action is part of typing. -/
def isTyping (action : Action) : Bool :=
  action.kind = .type || action.kind = .keypress

/- Whether two actions are typing in one and the same field. -/
def isSameField (a b : Action) : Bool :=
  isTyping a && isTyping b && a.selector.isSome &&
    a.selector = b.selector && a.frames = b.frames

/- The bursts of typing and the single actions between them. -/
def segments (actions : List Action) : List (List Action) :=
  actions.splitBy isSameField

/- The operations of one action, or the note in their place. -/
def Settings.operationsOrNote
    (settings : Settings)
    (action : Action) : List Operation :=
  match settings.stepFor action with
  | .ok step => step.operations
  | .error refusal => [.note refusal.remark]

/- The entry of a burst of typing. -/
def Settings.typingEntry
    (settings : Settings)
    (first : Action)
    (others : List Action) : Entry :=
  match target first with
  | .error refusal => .skipped refusal.message
  | .ok t =>
      .step ⟨"Type in " ++ t.selector.describe,
        (first :: others).flatMap settings.operationsOrNote⟩

/- The entry of a single action. -/
def Settings.singleEntry
    (settings : Settings)
    (action : Action) : Entry :=
  match settings.stepFor action with
  | .ok step => .step step
  | .error refusal => .skipped refusal.message

/-
  The entry of a segment. A key pressed on its own keeps the
  title that names it.
-/
def Settings.entryFor
    (settings : Settings)
    (first : Action)
    (others : List Action) : Entry :=
  if others ≠ [] ∨ first.kind = .type then
    settings.typingEntry first others
  else
    settings.singleEntry first

/- The entry of a segment, which is never empty. -/
def Settings.segmentEntry?
    (settings : Settings) :
    List Action → Option Entry
  | [] => none
  | first :: others => some (settings.entryFor first others)

/- The entries of the actions of one page. -/
def Settings.entries
    (settings : Settings)
    (actions : List Action) : List Entry :=
  (segments actions).filterMap settings.segmentEntry?

end Plan

end Clickstream
