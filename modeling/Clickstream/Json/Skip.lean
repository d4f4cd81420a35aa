import Clickstream.Json.Reader

/-
  Passing over JSON values that nobody wants to know. Only
  the grammar counts here: an escape may name half a
  surrogate pair, a number may be out of reach, and values
  may nest as deep as they like.

  Key definitions:
    * `Json.skipString`, `Json.skipNumber`
    * `Json.skipValue`
    * `Json.skip`: what follows the value at the front
-/

namespace Clickstream

namespace Json

------------------------------------------------------------
-- Strings and Numbers
------------------------------------------------------------

/- Pass over a string up to its closing quote. -/
def skipString : List Char → Option (List Char)
  | [] => none
  | '"' :: rest => some rest
  | '\\' :: 'u' :: a :: b :: c :: d :: rest =>
      if (hexFour? a b c d).isSome then skipString rest
      else none
  | '\\' :: e :: rest =>
      if (shortEscape? e).isSome then skipString rest else none
  | c :: rest =>
      if c.toNat < 0x20 ∨ c = '\\' then none
      else skipString rest

/- Pass over a number. -/
def skipNumber : List Char → Option (List Char)
  | '-' :: rest => (readForm true rest).map (·.2)
  | cs => (readForm false cs).map (·.2)

------------------------------------------------------------
-- Values
------------------------------------------------------------

mutual

/- Pass over one value. `fuel` bounds the steps. -/
def skipValue :
    (fuel : Nat) → List Char → Option (List Char)
  | 0, _ => none
  | fuel + 1, cs =>
      match skipGap cs with
      | 'n' :: 'u' :: 'l' :: 'l' :: rest => some rest
      | 't' :: 'r' :: 'u' :: 'e' :: rest => some rest
      | 'f' :: 'a' :: 'l' :: 's' :: 'e' :: rest => some rest
      | '"' :: rest => skipString rest
      | '[' :: rest =>
          match skipGap rest with
          | ']' :: after => some after
          | _ => skipItems fuel rest
      | '\x7b' :: rest =>
          match skipGap rest with
          | '\x7d' :: after => some after
          | _ => skipFields fuel rest
      | other => skipNumber other

/- Pass over the items of an array and its closing bracket. -/
def skipItems :
    (fuel : Nat) → List Char → Option (List Char)
  | 0, _ => none
  | fuel + 1, cs =>
      match skipValue fuel cs with
      | none => none
      | some rest =>
          match skipGap rest with
          | ',' :: after => skipItems fuel after
          | ']' :: after => some after
          | _ => none

/- Pass over the fields of an object and its closing brace. -/
def skipFields :
    (fuel : Nat) → List Char → Option (List Char)
  | 0, _ => none
  | fuel + 1, cs =>
      match skipGap cs with
      | '"' :: rest =>
          match (skipString rest).map skipGap with
          | some (':' :: rest) =>
              match (skipValue fuel rest).map skipGap with
              | some (',' :: after) => skipFields fuel after
              | some ('\x7d' :: after) => some after
              | _ => none
          | _ => none
      | _ => none

end

/-
  What follows the value at the front of a text. A container
  takes two characters and two steps, an item behind a comma
  two characters and one step.
-/
def skip (cs : List Char) : Option (List Char) :=
  skipValue (cs.length + 1) cs

end Json

end Clickstream
