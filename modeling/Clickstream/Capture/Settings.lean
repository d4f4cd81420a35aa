/-
  Settings of the capture: how long bursts take to settle,
  what counts as a repetition, and what is kept of a value.

  Key definitions:
    * `Capture.Settings`
-/

namespace Clickstream

namespace Capture

/-
  Times are in milliseconds. `duplicateWindow` is the time in
  which a repeated action counts as the same one; a scroll
  has to move further than `scrollThreshold` pixels;
  `valueLimit` counts characters; `marker` stands in place of
  a password.
-/
structure Settings where
  typeDelay : Nat := 2000
  hoverDelay : Nat := 300
  scrollDelay : Nat := 100
  duplicateWindow : Nat := 500
  scrollThreshold : Int := 100
  valueLimit : Nat := 100
  marker : String := "***"
deriving DecidableEq, Repr, Inhabited

end Capture

end Clickstream
