import Clickstream.Action.Basic

/-
  Operations: what a test does with the browser, in no
  language yet.

  Key definitions:
    * `Target`, `Target.of?`, `Target.document`
    * `MouseButton`
    * `Operation`
-/

namespace Clickstream

------------------------------------------------------------
-- Targets
------------------------------------------------------------

/- An element to act on, and the frames on the way to it. -/
structure Target where
  frames : FramePath
  selector : Selector
deriving DecidableEq, Repr, Inhabited

namespace Target

/-
  The selector by which a test finds the element of an
  action. An id that was unique is better than a test id.
-/
def preferred
    (selector : Selector)
    (elementId : Option String) : Selector :=
  match selector.kind, elementId with
  | .testId, some id =>
      if id = "" then selector else Selector.uniqueId id
  | _, _ => selector

/- The element an action was done to. -/
def of? (action : Action) : Option Target :=
  action.selector.map fun selector =>
    ⟨action.frames, preferred selector action.elementId⟩

/- The root element of the innermost of these frames. -/
def document (frames : FramePath) : Target :=
  ⟨frames, Selector.cssPath "html"⟩

end Target

------------------------------------------------------------
-- Operations
------------------------------------------------------------

/- The two buttons of a mouse that a test uses. -/
inductive MouseButton where
  | left
  | right
deriving DecidableEq, Repr, Inhabited

/-
  One thing a test does. A key without a target is pressed on
  the page; `scrollWindow` scrolls the innermost frame or the
  page. A note does nothing and says why.
-/
inductive Operation where
  | goto (url : String)
  | click (target : Target) (button : MouseButton)
  | doubleClick (target : Target)
  | fill (target : Target) (value : String)
  | check (target : Target)
  | uncheck (target : Target)
  | selectOption
      (target : Target) (values : List String)
      (multiple : Bool)
  | setInputFiles (target : Target) (files : List String)
  | hover (target : Target)
  | focus (target : Target)
  | blur (target : Target)
  | waitFor (target : Target)
  | press (target : Option Target) (key : String)
  | scrollElement (target : Target) (x y : Int)
  | scrollWindow (frames : FramePath) (x y : Int)
  | mouseDown
  | mouseUp
  | requestSubmit (target : Target)
  | settleWait (ms : Nat)
  | note (text : String)
deriving DecidableEq, Repr, Inhabited

namespace Operation

/- Whether an operation does nothing. -/
def isNote : Operation → Bool
  | .note _ => true
  | _ => false

end Operation

end Clickstream
