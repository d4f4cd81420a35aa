import Clickstream.Json.Record
import Clickstream.Json.Skip

/-
  Shapes: which JSON a reader expects, told apart from the
  values it makes of it. Text that is read by a shape is
  judged from left to right, and the first fault counts: a
  value of another kind is a misfit even where the text
  breaks off behind it. Fields that the shape does not name
  are passed over.

  Key definitions:
    * `Json.Fault`
    * `Json.Shape`, `Json.Member`, `Json.Need`
    * `Json.Member.needed`, `Json.Member.neededInArrays`,
      `Json.Member.free`
    * `Json.Member.record?`: the fields of a record
    * `Json.readScalar`, `Json.readChoice`, `Json.readWhole`
    * `Json.Shape.readAt`
    * `Json.Shape.readFront`: the value a text starts with
    * `Json.Shape.read`: the value a text is
-/

namespace Clickstream

namespace Json

------------------------------------------------------------
-- Shapes
------------------------------------------------------------

/- What is wrong with a text: it is no JSON, or other JSON. -/
inductive Fault where
  | broken
  | misfit
deriving DecidableEq, Repr, Inhabited

/-
  Where a field of a record has to be given: in objects and
  arrays, in arrays alone, or nowhere.
-/
inductive Need where
  | always
  | inArrays
  | never
deriving DecidableEq, Repr, Inhabited

/- A field of a record and the shape of its value. -/
structure Member (σ : Type) where
  name : String
  need : Need
  shape : σ

/-
  The JSON that is expected:
    * `scalar`: a value without parts that fits
    * `choice`: the name of one of several choices
    * `whole`: any value; it is read to its end and only then
      looked at
    * `optional`: `null` or a value of a shape
    * `list`: an array of values of one shape
    * `record`: an object or array with these fields
-/
inductive Shape where
  | scalar (fits : Json → Bool)
  | choice (fits : String → Bool)
  | whole (fits : Json → Bool)
  | optional (shape : Shape)
  | list (item : Shape)
  | record (members : List (Member Shape))

namespace Shape

/- The values without parts that a reader takes. -/
def ofScalar
    {α : Type}
    (read : Json → Option α) : Shape :=
  .scalar (fun value => (read value).isSome)

/- The choices whose names a reader takes. -/
def ofChoice
    {α : Type}
    (read : String → Option α) : Shape :=
  .choice (fun name => (read name).isSome)

/- The values of any kind that a reader takes. -/
def ofWhole
    {α : Type}
    (read : Json → Option α) : Shape :=
  .whole (fun value => (read value).isSome)

/- Strings. -/
def text : Shape :=
  ofScalar text?

/- Truth values. -/
def flag : Shape :=
  ofScalar flag?

end Shape

------------------------------------------------------------
-- Records
------------------------------------------------------------

namespace Member

variable {σ : Type}

/- A field that has to be given. -/
def needed
    (name : String)
    (shape : σ) : Member σ :=
  ⟨name, .always, shape⟩

/- A field that may be missing in objects. -/
def neededInArrays
    (name : String)
    (shape : σ) : Member σ :=
  ⟨name, .inArrays, shape⟩

/- A field that may be missing. -/
def free
    (name : String)
    (shape : σ) : Member σ :=
  ⟨name, .never, shape⟩

/- How many values an array has to give at least. -/
def least : List (Member σ) → Nat
  | [] => 0
  | m :: rest =>
      if least rest = 0 ∧ m.need = .never then 0
      else least rest + 1

/- The fields of a record with these members. -/
def record?
    (members : List (Member σ))
    (value : Json) : Option Fields :=
  value.record? (members.map (·.name)) (least members)

/- The record, if no field that it needs is missing. -/
def close
    (members : List (Member σ))
    (fields : Fields) : Except Fault Json :=
  if members.all fun m =>
      m.need ≠ .always || (fields.find? m.name).isSome
  then .ok (.object fields)
  else .error .misfit

end Member

------------------------------------------------------------
-- Reading Without Recursion
------------------------------------------------------------

/- A value and what follows it, or else the first fault. -/
abbrev Reading :=
  Except Fault (Json × List Char)

/- Pass over one sign between values. -/
def expect
    (sign : Char)
    (cs : List Char) : Except Fault (List Char) :=
  match skipGap cs with
  | c :: rest => if c = sign then .ok rest else .error .broken
  | [] => .error .broken

/-
  Read a value without parts. A container is a misfit as soon
  as it opens; anything else is read before it is judged.
-/
def readScalar
    (fits : Json → Bool)
    (cs : List Char) : Reading :=
  match skipGap cs with
  | '[' :: _ => .error .misfit
  | '\x7b' :: _ => .error .misfit
  | other =>
      match readValue 1 0 other with
      | none => .error .broken
      | some (value, rest) =>
          if fits value then .ok (value, rest)
          else .error .misfit

/- The fault of a text where no value without parts fits. -/
def refuse (cs : List Char) : Reading :=
  readScalar (fun _ => false) cs

/- Read `null`. -/
def readNull (cs : List Char) : Reading :=
  readScalar (fun | .null => true | _ => false) cs

/- Read a string that fits. -/
def readName
    (fits : String → Bool)
    (cs : List Char) : Reading :=
  readScalar (fun | .string s => fits s | _ => false) cs

/-
  Read the name of a choice: a string, or an object with that
  one name and `null` under it. What cannot be either of them
  is no choice in the grammar of choices, and so the text
  counts as broken.
-/
def readChoice
    (depth : Nat)
    (fits : String → Bool)
    (cs : List Char) : Reading :=
  match skipGap cs with
  | '"' :: rest => readName fits ('"' :: rest)
  | '\x7b' :: rest =>
      if depth = 0 then .error .broken
      else do
        let (name, rest) ← readName fits rest
        let rest ← expect ':' rest
        let (_, rest) ← readNull rest
        let rest ← expect '\x7d' rest
        return (name, rest)
  | _ => .error .broken

/- Read any value and then look at it. -/
def readWhole
    (depth : Nat)
    (fits : Json → Bool)
    (cs : List Char) : Reading :=
  match readValue (cs.length + 1) depth cs with
  | none => .error .broken
  | some (value, rest) =>
      if fits value then .ok (value, rest) else .error .misfit

------------------------------------------------------------
-- Reading
------------------------------------------------------------

namespace Shape

mutual

/-
  Read a value by its shape. `depth` counts the containers
  that may still be opened, `fuel` bounds the steps.
-/
def readAt :
    (fuel depth : Nat) → Shape → List Char → Reading
  | 0, _, _, _ => .error .broken
  | fuel + 1, depth, shape, cs =>
      match shape, skipGap cs with
      | .scalar fits, cs => readScalar fits cs
      | .choice fits, cs => readChoice depth fits cs
      | .whole fits, cs => readWhole depth fits cs
      | .optional _, 'n' :: rest => readNull ('n' :: rest)
      | .optional shape, cs => readAt fuel depth shape cs
      | .list item, '[' :: rest =>
          match depth, skipGap rest with
          | 0, _ => .error .broken
          | _, ']' :: after => .ok (.array [], after)
          | depth + 1, rest => readItems fuel depth item [] rest
      | .record members, '\x7b' :: rest =>
          match depth, skipGap rest with
          | 0, _ => .error .broken
          | _, '\x7d' :: after =>
              (Member.close members []).map ((·, after))
          | depth + 1, rest =>
              readFields fuel depth members [] rest
      | .record members, '[' :: rest =>
          match depth with
          | 0 => .error .broken
          | depth + 1 => readTuple fuel depth members [] rest
      | _, other => refuse other

/- Read the items of an array up to its closing bracket. -/
def readItems :
    (fuel depth : Nat) → Shape → List Json → List Char →
    Reading
  | 0, _, _, _, _ => .error .broken
  | fuel + 1, depth, shape, done, cs =>
      match readAt fuel depth shape cs with
      | .error fault => .error fault
      | .ok (item, rest) =>
          match skipGap rest with
          | ',' :: after =>
              readItems fuel depth shape (item :: done) after
          | ']' :: after =>
              .ok (.array (item :: done).reverse, after)
          | _ => .error .broken

/-
  Read the fields of an object up to its closing brace. A
  member that is named again is a misfit at its name; a field
  that is no member is passed over.
-/
def readFields :
    (fuel depth : Nat) → List (Member Shape) → Fields →
    List Char → Reading
  | 0, _, _, _, _ => .error .broken
  | fuel + 1, depth, members, done, cs =>
      let next (done : Fields) (rest : List Char) : Reading :=
        match skipGap rest with
        | ',' :: after =>
            readFields fuel depth members done after
        | '\x7d' :: after =>
            (Member.close members done.reverse).map
              ((·, after))
        | _ => .error .broken
      match skipGap cs with
      | '"' :: rest =>
          match readString [] rest with
          | none => .error .broken
          | some (key, rest) =>
              match members.find? (·.name = key),
                  expect ':' rest with
              | none, .error fault => .error fault
              | none, .ok rest =>
                  match skip rest with
                  | none => .error .broken
                  | some rest => next done rest
              | some member, colon =>
                  if (done.find? key).isSome then
                    .error .misfit
                  else
                    match colon with
                    | .error fault => .error fault
                    | .ok rest =>
                        match readAt fuel depth member.shape
                            rest with
                        | .error fault => .error fault
                        | .ok (value, rest) =>
                            next ((key, value) :: done) rest
      | _ => .error .broken

/-
  Read the fields of a record from an array up to its closing
  bracket. `members` are those that are still to come.
-/
def readTuple :
    (fuel depth : Nat) → List (Member Shape) → List Json →
    List Char → Reading
  | 0, _, _, _, _ => .error .broken
  | _, _, [], done, cs =>
      (expect ']' cs).map ((.array done.reverse, ·))
  | fuel + 1, depth, member :: members, done, cs =>
      match done, skipGap cs with
      | done, ']' :: after =>
          if Member.least (member :: members) = 0 then
            .ok (.array done.reverse, after)
          else .error .misfit
      | [], first =>
          match readAt fuel depth member.shape first with
          | .error fault => .error fault
          | .ok (value, rest) =>
              readTuple fuel depth members [value] rest
      | done, ',' :: after =>
          match readAt fuel depth member.shape after with
          | .error fault => .error fault
          | .ok (value, rest) =>
              readTuple fuel depth members (value :: done) rest
      | _, _ => .error .broken

end

/-
  The value of this shape that a text starts with, and what
  follows it. No character takes more than three steps.
-/
def readFront
    (shape : Shape)
    (text : String) : Reading :=
  let cs := text.toList
  shape.readAt (3 * (cs.length + 1)) maxDepth cs

/- The value of a text that holds one value and blanks. -/
def read
    (shape : Shape)
    (text : String) : Except Fault Json :=
  match shape.readFront text with
  | .error fault => .error fault
  | .ok (value, rest) =>
      if (skipGap rest).isEmpty then .ok value
      else .error .broken

end Shape

end Json

end Clickstream
