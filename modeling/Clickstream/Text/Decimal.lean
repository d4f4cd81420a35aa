import Clickstream.Text.Ascii

/-
  Whole numbers in decimal digits.

  Key definitions:
    * `Text.Decimal.ofDigits`: the number a row of digits means
    * `Text.Decimal.readBelow`: a number under a bound
-/

namespace Clickstream

namespace Text

namespace Decimal

------------------------------------------------------------
-- Digits
------------------------------------------------------------

/- The number a row of decimal digits means. -/
def ofDigits (cs : List Char) : Nat :=
  cs.foldl (fun n c => 10 * n + (c.toNat - '0'.toNat)) 0

/-
  A number below `bound`, written with ASCII digits and, if
  wished, one plus sign before them. Leading zeros are fine.
-/
def readBelow
    (bound : Nat)
    (cs : List Char) : Option Nat :=
  let digits :=
    match cs with
    | '+' :: rest => rest
    | _ => cs
  if digits ≠ [] ∧ digits.all isDigit ∧
      ofDigits digits < bound then
    some (ofDigits digits)
  else
    none

end Decimal

end Text

end Clickstream
