import Clickstream.Text.Blank
import Clickstream.Text.Decimal
import Clickstream.Capture.Settings
import Clickstream.Plan.Settings

/-
  The configuration of a service, read from named variables.
  A variable that is missing or makes no sense leaves its
  setting at the default.

  Key definitions:
    * `Configuration`
    * `Configuration.numberOr`
    * `Configuration.ofVariables`
-/

namespace Clickstream

/-
  Where a service listens, and the settings of its parts.
  `listenPort` is a number below 65536.
-/
structure Configuration where
  listenPort : Nat := 8765
  host : String := "127.0.0.1"
  capture : Capture.Settings := {}
  plan : Plan.Settings := {}
deriving DecidableEq, Repr, Inhabited

namespace Configuration

------------------------------------------------------------
-- Variables
------------------------------------------------------------

/- A number below a bound, with blanks around it or not. -/
def number?
    (bound : Nat)
    (text : String) : Option Nat :=
  Text.Decimal.readBelow bound (Text.trim text).toList

/- The number a variable holds, or else the default. -/
def numberOr
    (bound fallback : Nat)
    (value : Option String) : Nat :=
  (value.bind (number? bound)).getD fallback

/- The bound of times in milliseconds. -/
def timeBound : Nat := UInt64.size

/- The configuration that variables describe. -/
def ofVariables
    (value? : String → Option String) : Configuration :=
  let base : Configuration := {}
  let time (name : String) (fallback : Nat) : Nat :=
    numberOr timeBound fallback (value? name)
  { base with
    listenPort :=
      numberOr UInt16.size base.listenPort
        (value? "SCRIBE_PORT")
    host := (value? "SCRIBE_HOST").getD base.host
    capture := { base.capture with
      typeDelay :=
        time "SCRIBE_TYPE_DEBOUNCE_MS" base.capture.typeDelay
      hoverDelay :=
        time "SCRIBE_HOVER_DEBOUNCE_MS"
          base.capture.hoverDelay
      scrollDelay :=
        time "SCRIBE_SCROLL_DEBOUNCE_MS"
          base.capture.scrollDelay
      duplicateWindow :=
        time "SCRIBE_DUPLICATE_WINDOW_MS"
          base.capture.duplicateWindow } }

end Configuration

end Clickstream
