/-
  JSON values. An object keeps its fields in the order they
  were written and keeps a name that is given twice; a number
  remembers whether it was written as a whole number.

  Key definitions:
    * `Number`
    * `Number.leading`, `Number.scale`, `Number.magnitude`
    * `Number.toFloat`: the double that stands for a number
    * `Json`
    * `Json.Fields`
-/

namespace Clickstream

------------------------------------------------------------
-- Numbers
------------------------------------------------------------

/-
  A number as it is written: digits alone, or with a decimal
  point or an exponent, and then meaning
  `mantissa * 10 ^ exponent`.
-/
inductive Number where
  | whole (value : Int)
  | scientific (mantissa : Int) (exponent : Int)
deriving DecidableEq, Repr, Inhabited

namespace Number

/-
  The leading digits of a number, as many as 64 bits hold,
  and how many digits come after them.
-/
def leading (n : Nat) : Nat × Nat :=
  if n < UInt64.size then (n, 0)
  else
    let (m, dropped) := leading (n / 10)
    (m, dropped + 1)
termination_by n
decreasing_by
  have hSize : 0 < UInt64.size := by decide
  omega

/- The greatest power of ten that is a double. -/
def maxPower : Nat := 308

/- A power of ten. -/
def power (n : Nat) : Float :=
  Float.ofScientific 1 false n

/-
  A double times a power of ten, rounded at every step. A
  power beyond the greatest one takes several steps down and
  leads to infinity up.
-/
def scale
    (x : Float)
    (exponent : Int) : Float :=
  if x == 0 then x
  else if maxPower < exponent then 1 / 0
  else if 0 ≤ exponent then x * power exponent.toNat
  else if -maxPower ≤ exponent then
    x / power exponent.natAbs
  else scale (x / power maxPower) (exponent + maxPower)
termination_by exponent.natAbs
decreasing_by
  simp only [maxPower] at *
  omega

/-
  The double that stands for `mantissa * 10 ^ exponent`: the
  leading digits, rounded, and then scaled. It may differ
  from the nearest double in its last bits.
-/
def magnitude
    (mantissa : Nat)
    (exponent : Int) : Float :=
  let (digits, dropped) := leading mantissa
  scale digits.toUInt64.toFloat (exponent + dropped)

/- The double that stands for a signed number. -/
def signed
    (mantissa exponent : Int) : Float :=
  if mantissa < 0 then - magnitude mantissa.natAbs exponent
  else magnitude mantissa.natAbs exponent

/- The double that stands for a number. -/
def toFloat : Number → Float
  | .whole n => signed n 0
  | .scientific m e => signed m e

end Number

------------------------------------------------------------
-- Values
------------------------------------------------------------

/- A JSON value. -/
inductive Json where
  | null
  | bool (value : Bool)
  | number (value : Number)
  | string (value : String)
  | array (items : List Json)
  | object (fields : List (String × Json))
deriving Repr, Inhabited

namespace Json

/- The fields of an object. -/
abbrev Fields :=
  List (String × Json)

/- A whole number. -/
def ofInt (n : Int) : Json :=
  .number (.whole n)

/- A count. -/
def ofNat (n : Nat) : Json :=
  ofInt n

/- A list of values. -/
def ofList
    {α : Type}
    (write : α → Json)
    (xs : List α) : Json :=
  .array (xs.map write)

/- A value or `null`. -/
def ofOption
    {α : Type}
    (write : α → Json)
    (x : Option α) : Json :=
  match x with
  | none => .null
  | some a => write a

end Json

end Clickstream
