import Clickstream.Text.Ascii
import Clickstream.Action.Basic
import Clickstream.Plan.Settings

/-
  Cleaning a recording before a test is planned from it:
  hovers, repetitions, navigations to where the page is,
  short scrolls, and focus that no form field had.

  Key definitions:
    * `Plan.Sieve`: what cleaning has to remember
    * `Plan.Sieve.passes`, `Plan.Sieve.next`
    * `Plan.prefilter`
    * `Plan.anchor`
-/

namespace Clickstream

namespace Plan

------------------------------------------------------------
-- Noise
------------------------------------------------------------

/-
  What cleaning remembers of the actions before: where the
  page is, how far it is scrolled, and the last action kept.
-/
structure Sieve where
  location : Option String := none
  scroll : Int × Int := (0, 0)
  last : Option Action := none
deriving DecidableEq, Repr, Inhabited

namespace Sieve

/- Whether an action was done to a form field, by its tag. -/
def onFormField (action : Action) : Bool :=
  match action.tagName with
  | some tag =>
      ["input", "textarea", "select"].contains (Text.lower tag)
  | none => false

/- Whether an action is more than noise by itself. -/
def isSignal
    (sieve : Sieve)
    (settings : Settings)
    (action : Action) : Bool :=
  match action.kind with
  | .hover => false
  | .navigate =>
      action.url.isNone || action.url ≠ sieve.location
  | .focus | .blur => onFormField action
  | .scroll =>
      settings.scrollThreshold <
        scrollDistance sieve.scroll action.position
  | _ => true

/- Whether an action repeats the last one that was kept. -/
def isRepeated
    (sieve : Sieve)
    (settings : Settings)
    (action : Action) : Bool :=
  !action.isNavigation &&
    (match sieve.last with
    | some last =>
        last.SameTarget action &&
          last.elapsed action < settings.duplicateWindow
    | none => false)

/- Whether an action is kept. -/
def passes
    (sieve : Sieve)
    (settings : Settings)
    (action : Action) : Bool :=
  sieve.isSignal settings action &&
    !sieve.isRepeated settings action

/-
  What is remembered after an action. A scroll that went far
  enough counts even where it repeats the last action.
-/
def next
    (sieve : Sieve)
    (settings : Settings)
    (action : Action) : Sieve :=
  if sieve.isSignal settings action then
    { location := action.address?.or sieve.location
      scroll :=
        if action.kind = .scroll then action.position
        else sieve.scroll
      last :=
        if sieve.isRepeated settings action then sieve.last
        else some action }
  else
    sieve

/- The actions that are kept, given what went before. -/
def keep
    (sieve : Sieve)
    (settings : Settings) :
    List Action → List Action
  | [] => []
  | action :: rest =>
      let others := keep (sieve.next settings action)
        settings rest
      if sieve.passes settings action then action :: others
      else others

end Sieve

/- The actions of a recording that are more than noise. -/
def prefilter
    (settings : Settings)
    (actions : List Action) : List Action :=
  Sieve.keep {} settings actions

------------------------------------------------------------
-- The First Page
------------------------------------------------------------

/- The recording from the first known address on. -/
def anchor (actions : List Action) : List Action :=
  actions.dropWhile (fun action => action.address?.isNone)

/- The part of a recording that a test is planned from. -/
def clean
    (settings : Settings)
    (actions : List Action) : List Action :=
  anchor (prefilter settings actions)

end Plan

end Clickstream
