import Clickstream.Json.Basic

/-
  Reading typed values out of JSON. A record is written as an
  object or as the array of its fields in their order.

  Key definitions:
    * `Json.text?`, `Json.flag?`, `Json.natBelow?`,
      `Json.intWithin?`, `Json.real?`, `Json.listOf?`
    * `Json.choice?`, `Json.looseChoice?`: the name of one of
      several choices
    * `Json.record?`: the fields of a record
    * `Json.Fields.required`, `Json.Fields.optional`,
      `Json.Fields.withDefault`
    * `Json.Fields.one`, `Json.Fields.ifSome`,
      `Json.Fields.ifTrue`
-/

namespace Clickstream

namespace Json

------------------------------------------------------------
-- Single Values
------------------------------------------------------------

/- A string. -/
def text? : Json → Option String
  | .string s => some s
  | _ => none

/- A truth value. -/
def flag? : Json → Option Bool
  | .bool b => some b
  | _ => none

/- A whole number from zero up to a bound it stays below. -/
def natBelow? (bound : Nat) : Json → Option Nat
  | .number (.whole n) =>
      if 0 ≤ n ∧ n < bound then some n.toNat else none
  | _ => none

/- A whole number between two bounds it may reach. -/
def intWithin? (low high : Int) : Json → Option Int
  | .number (.whole n) =>
      if low ≤ n ∧ n ≤ high then some n else none
  | _ => none

/- Unsigned numbers of eight bits. -/
def byte? : Json → Option Nat :=
  natBelow? UInt8.size

/- Unsigned numbers of 32 bits. -/
def count? : Json → Option Nat :=
  natBelow? UInt32.size

/- Unsigned numbers of 64 bits: times in milliseconds. -/
def time? : Json → Option Nat :=
  natBelow? UInt64.size

/- Signed numbers of 64 bits: distances in pixels. -/
def offset? : Json → Option Int :=
  intWithin? (-0x8000000000000000) 0x7FFFFFFFFFFFFFFF

/- Any number, as a double. -/
def real? : Json → Option Float
  | .number n => some n.toFloat
  | _ => none

/- A list of values that are all readable. -/
def listOf?
    {α : Type}
    (read : Json → Option α) : Json → Option (List α)
  | .array items => items.mapM read
  | _ => none

/-
  The name of a choice that carries no data: a string, or an
  object with that one name and `null` under it.
-/
def choice? : Json → Option String
  | .string s => some s
  | .object [(s, .null)] => some s
  | _ => none

/- The same, where an empty object may stand for `null`. -/
def looseChoice? : Json → Option String
  | .object [(s, .object [])] => some s
  | other => other.choice?

------------------------------------------------------------
-- Records
------------------------------------------------------------

namespace Fields

/- How often a name is given. -/
def occurrences
    (fields : Fields)
    (key : String) : Nat :=
  (fields.filter (·.1 = key)).length

/- The value given under a name. -/
def find?
    (fields : Fields)
    (key : String) : Option Json :=
  match fields with
  | [] => none
  | (k, v) :: rest => if k = key then some v else find? rest key

/- A field that has to be there. -/
def required
    {α : Type}
    (fields : Fields)
    (key : String)
    (read : Json → Option α) : Option α :=
  match find? fields key with
  | none => none
  | some v => read v

/- A field that may be missing or `null`. -/
def optional
    {α : Type}
    (fields : Fields)
    (key : String)
    (read : Json → Option α) : Option (Option α) :=
  match find? fields key with
  | none => some none
  | some .null => some none
  | some v => (read v).map some

/- A field that may be missing, but not `null`. -/
def withDefault
    {α : Type}
    (fields : Fields)
    (key : String)
    (fallback : α)
    (read : Json → Option α) : Option α :=
  match find? fields key with
  | none => some fallback
  | some v => read v

end Fields

/-
  The fields of a record with these names. In an object no
  known name may be given twice, and unknown names are passed
  over. An array gives the fields in order and may stop
  early, but not before the first `least` of them.
-/
def record?
    (keys : List String)
    (least : Nat) : Json → Option Fields
  | .object fields =>
      if keys.all (fun key => Fields.occurrences fields key ≤ 1)
      then some fields else none
  | .array items =>
      if least ≤ items.length ∧ items.length ≤ keys.length
      then some (keys.zip items) else none
  | _ => none

------------------------------------------------------------
-- Writing Fields
------------------------------------------------------------

namespace Fields

/- A field that is always written. -/
def one
    (key : String)
    (value : Json) : Fields :=
  [(key, value)]

/- A field that is written when there is a value. -/
def ifSome
    {α : Type}
    (key : String)
    (write : α → Json)
    (value : Option α) : Fields :=
  match value with
  | none => []
  | some a => [(key, write a)]

/- A field that is written when it is true. -/
def ifTrue
    (key : String)
    (value : Bool) : Fields :=
  if value then [(key, .bool true)] else []

end Fields

end Json

end Clickstream
