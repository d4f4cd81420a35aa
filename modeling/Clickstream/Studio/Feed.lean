import Clickstream.Action.Basic

/-
  Feeds: what a listener gets to hear. A listener that does
  not listen for a while finds the last actions kept for it
  and learns how many it missed.

  Key definitions:
    * `Feed.capacity`
    * `Feed.missed`, `Feed.kept`
-/

namespace Clickstream

namespace Feed

/- How many actions are kept for a listener. -/
def capacity : Nat := 256

/- How many of these actions are not kept. -/
def missed (actions : List Action) : Nat :=
  actions.length - capacity

/- The actions that are kept: the last ones. -/
def kept (actions : List Action) : List Action :=
  actions.drop (missed actions)

end Feed

end Clickstream
