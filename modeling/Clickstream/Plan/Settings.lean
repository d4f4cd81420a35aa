/-
  Settings of the plans: what is cleaned out of a recording,
  how long a page may take to settle, and which address
  stands in for one that is not known.

  Key definitions:
    * `Plan.Settings`
-/

namespace Clickstream

namespace Plan

/-
  Times are in milliseconds, distances in pixels. A recording
  is cleaned with a wider window than it was made with.
-/
structure Settings where
  duplicateWindow : Nat := 1000
  scrollThreshold : Int := 100
  settleWait : Nat := 1000
  placeholderUrl : String := "https://example.com"
deriving DecidableEq, Repr, Inhabited

end Plan

end Clickstream
