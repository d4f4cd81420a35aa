import Clickstream.Plan.Operation

/-
  Calls: operations as calls on the objects of a browser
  test, still without a spelling. Every operation but a note
  is one call.

  Key definitions:
    * `Method`, `PageObject`, `Accessor`, `Scope`
    * `Receiver`, `Argument`
    * `Call`, `Call.of?`
-/

namespace Clickstream

namespace Script

------------------------------------------------------------
-- Vocabulary
------------------------------------------------------------

/- What is called. -/
inductive Method where
  | goto
  | click
  | doubleClick
  | fill
  | check
  | uncheck
  | selectOption
  | setInputFiles
  | hover
  | focus
  | blur
  | waitFor
  | press
  | evaluate
  | down
  | up
  | waitForTimeout
deriving DecidableEq, Repr, Inhabited

/- The objects that are there without looking for them. -/
inductive PageObject where
  | page
  | keyboard
  | mouse
deriving DecidableEq, Repr, Inhabited

/- How an element is looked for, roles apart. -/
inductive Accessor where
  | frameLocator
  | locator
  | testId
  | label
  | placeholder
  | altText
  | title
deriving DecidableEq, Repr, Inhabited

/- What an element is looked for in. -/
inductive Scope where
  | page
  | frameLocator
  | locator
deriving DecidableEq, Repr, Inhabited

/- What a call is made on. -/
inductive Receiver where
  | object (object : PageObject)
  | element (target : Target)
deriving DecidableEq, Repr, Inhabited

/- What a call is given. Code runs in the browser. -/
inductive Argument where
  | text (text : String)
  | texts (items : List String)
  | number (n : Int)
  | code (source : String)
  | files (names : List String)
  | button (button : MouseButton)
deriving DecidableEq, Repr, Inhabited

/- A call. -/
structure Call where
  receiver : Receiver
  method : Method
  arguments : List Argument
deriving DecidableEq, Repr, Inhabited

------------------------------------------------------------
-- Calls of Operations
------------------------------------------------------------

namespace Call

/- A call on an element. -/
def on
    (target : Target)
    (method : Method)
    (arguments : List Argument) : Call :=
  ⟨.element target, method, arguments⟩

/- A call on an object of the page. -/
def page
    (object : PageObject)
    (method : Method)
    (arguments : List Argument) : Call :=
  ⟨.object object, method, arguments⟩

/- Two coordinates as arguments of code. -/
def coordinates (x y : Int) : String :=
  "(" ++ toString x ++ ", " ++ toString y ++ ")"

/- A count as a signed number of 64 bits. -/
def signed64 (n : Nat) : Int :=
  Int.bmod n UInt64.size

/- Choices as one text or as a list. -/
def choices
    (values : List String)
    (multiple : Bool) : Argument :=
  if multiple then .texts values
  else .text (values.head?.getD "")

/- The call that scrolls a window to a position. -/
def scrollWindow
    (frames : FramePath)
    (x y : Int) : Call :=
  let code : Argument :=
    .code ("() => window.scrollTo" ++ coordinates x y)
  if frames.isEmpty then page .page .evaluate [code]
  else on (Target.document frames) .evaluate [code]

/- The call of an operation, unless it is a note. -/
def of? : Operation → Option Call
  | .goto url => some (page .page .goto [.text url])
  | .click t .left => some (on t .click [])
  | .click t .right => some (on t .click [.button .right])
  | .doubleClick t => some (on t .doubleClick [])
  | .fill t value => some (on t .fill [.text value])
  | .check t => some (on t .check [])
  | .uncheck t => some (on t .uncheck [])
  | .selectOption t values multiple =>
      some (on t .selectOption [choices values multiple])
  | .setInputFiles t files =>
      some (on t .setInputFiles [.files files])
  | .hover t => some (on t .hover [])
  | .focus t => some (on t .focus [])
  | .blur t => some (on t .blur [])
  | .waitFor t => some (on t .waitFor [])
  | .press (some t) key => some (on t .press [.text key])
  | .press none key =>
      some (page .keyboard .press [.text key])
  | .scrollElement t x y =>
      some (on t .evaluate
        [.code ("(el) => el.scrollTo" ++ coordinates x y)])
  | .scrollWindow frames x y => some (scrollWindow frames x y)
  | .mouseDown => some (page .mouse .down [])
  | .mouseUp => some (page .mouse .up [])
  | .requestSubmit t =>
      some (on t .evaluate
        [.code "(form) => form.requestSubmit()"])
  | .settleWait ms =>
      some (page .page .waitForTimeout
        [.number (signed64 ms)])
  | .note _ => none

end Call

end Script

end Clickstream
