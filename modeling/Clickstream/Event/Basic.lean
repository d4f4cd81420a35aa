import Clickstream.Action.Basic
import Clickstream.Element.Normal

/-
  Events: what a page reports while a user works with it.

  Key definitions:
    * `Gesture`: the events that only name an element
    * `Occurrence`: what happened
    * `Event`: what happened, and when
    * `Event.target?`, `Event.mapTarget`
    * `Event.normalise`
-/

namespace Clickstream

------------------------------------------------------------
-- Events
------------------------------------------------------------

/- Events that carry nothing but the element they happen to. -/
inductive Gesture where
  | contextMenu
  | input
  | change
  | focus
  | blur
  | mouseOver
  | submit
  | dragStart
  | drop
deriving DecidableEq, Repr, Inhabited

/-
  What happened. A click tells which click in a row it was
  and which button was used; the secondary button has number
  two. A scroll of the whole document has no element. A
  mutation tells the address of the page afterwards, and an
  unloading page tells its own.
-/
inductive Occurrence where
  | gesture (gesture : Gesture) (target : Element)
  | click (target : Element) (clicks button : Nat)
  | keyDown
      (target : Element) (key : String)
      (modifiers : Modifiers)
  | scroll (target : Option Element) (x y : Int)
  | mutation (address : String)
  | unload (address : String)
deriving Repr, Inhabited

/- What happened, and when in milliseconds. -/
structure Event where
  occurrence : Occurrence
  timestamp : Nat
deriving Repr, Inhabited

------------------------------------------------------------
-- Elements of Events
------------------------------------------------------------

namespace Occurrence

/- The element something happened to. -/
def target? : Occurrence → Option Element
  | .gesture _ e => some e
  | .click e _ _ => some e
  | .keyDown e _ _ => some e
  | .scroll e _ _ => e
  | .mutation _ => none
  | .unload _ => none

/- The same occurrence with a changed element. -/
def mapTarget (f : Element → Element) :
    Occurrence → Occurrence
  | .gesture g e => .gesture g (f e)
  | .click e clicks button => .click (f e) clicks button
  | .keyDown e key modifiers => .keyDown (f e) key modifiers
  | .scroll e x y => .scroll (e.map f) x y
  | .mutation address => .mutation address
  | .unload address => .unload address

end Occurrence

namespace Event

/- The element something happened to. -/
def target? (event : Event) : Option Element :=
  event.occurrence.target?

/- The same event with a changed element. -/
def mapTarget
    (f : Element → Element)
    (event : Event) : Event :=
  { event with occurrence := event.occurrence.mapTarget f }

/- The same event with its element in normal form. -/
def normalise (event : Event) : Event :=
  event.mapTarget Element.normalise

theorem target?_normalise (event : Event) :
    event.normalise.target? =
      event.target?.map Element.normalise := by
  unfold normalise mapTarget target?
  cases event.occurrence <;> rfl

end Event

end Clickstream
