import Clickstream.Text.Ascii
import Clickstream.Text.Decimal
import Clickstream.Json.Basic

/-
  Reading JSON text. A text is refused where the grammar is
  broken, where an escape names half a surrogate pair, where
  a number is out of the reach of doubles, and where values
  nest deeper than `maxDepth`.

  Key definitions:
    * `Json.readForm`, `Json.readNumber`, `Json.readString`
    * `Json.readValue`
    * `Json.readFront`: the value a text starts with
    * `Json.read`: the value a text is
-/

namespace Clickstream

namespace Json

------------------------------------------------------------
-- Blanks and Numbers
------------------------------------------------------------

/- The four blanks that may stand between tokens. -/
def isGap (c : Char) : Bool :=
  c == ' ' || c == '\n' || c == '\r' || c == '\t'

/- Drop the blanks before the next token. -/
def skipGap (cs : List Char) : List Char :=
  cs.dropWhile isGap

/-
  Read at least one digit; the second part is what follows
  the digits.
-/
def readDigits
    (cs : List Char) : Option (List Char × List Char) :=
  let digits := cs.takeWhile Text.isDigit
  if digits.isEmpty then none
  else some (digits, cs.dropWhile Text.isDigit)

/- Read the decimal places, if a point announces them. -/
def readPlaces :
    List Char → Option (List Char × List Char)
  | '.' :: rest => readDigits rest
  | cs => some ([], cs)

/- Read the exponent, if a letter announces one. -/
def readExponent
    (cs : List Char) : Option (Option Int × List Char) :=
  let signed (cs : List Char) : Option (Int × List Char) :=
    match cs with
    | '-' :: rest => (readDigits rest).map fun (ds, after) =>
        (- Int.ofNat (Text.Decimal.ofDigits ds), after)
    | '+' :: rest => (readDigits rest).map fun (ds, after) =>
        (Int.ofNat (Text.Decimal.ofDigits ds), after)
    | _ => (readDigits cs).map fun (ds, after) =>
        (Int.ofNat (Text.Decimal.ofDigits ds), after)
  match cs with
  | 'e' :: rest | 'E' :: rest =>
      (signed rest).map fun (e, after) => (some e, after)
  | _ => some (none, cs)

/-
  The number with this sign, these digits before and after
  the point and this exponent. Minus zero is no whole number.
-/
def assemble
    (negative : Bool)
    (digits places : List Char)
    (exponent : Option Int) : Number :=
  let n := Int.ofNat (Text.Decimal.ofDigits (digits ++ places))
  let mantissa := if negative then -n else n
  if places.isEmpty && exponent.isNone &&
      !(negative && n == 0) then
    .whole mantissa
  else
    .scientific mantissa (exponent.getD 0 - places.length)

/-
  Read a number without its sign, however large it is. A
  leading zero has no digit after it.
-/
def readForm
    (negative : Bool)
    (cs : List Char) : Option (Number × List Char) :=
  match readDigits cs with
  | none => none
  | some (digits, rest) =>
      if digits.head? = some '0' ∧ digits.length ≠ 1 then none
      else
        match readPlaces rest with
        | none => none
        | some (places, rest) =>
            (readExponent rest).map fun (exponent, after) =>
              (assemble negative digits places exponent, after)

/- Read a number that is in the reach of doubles. -/
def readUnsigned
    (negative : Bool)
    (cs : List Char) : Option (Number × List Char) :=
  (readForm negative cs).filter (fun r => !r.1.toFloat.isInf)

/- Read a number. -/
def readNumber :
    List Char → Option (Number × List Char)
  | '-' :: rest => readUnsigned true rest
  | cs => readUnsigned false cs

------------------------------------------------------------
-- Strings
------------------------------------------------------------

/- The value of a hexadecimal digit. -/
def hexDigit? (c : Char) : Option Nat :=
  if '0' ≤ c ∧ c ≤ '9' then some (c.toNat - '0'.toNat)
  else if 'a' ≤ c ∧ c ≤ 'f' then
    some (c.toNat - 'a'.toNat + 10)
  else if 'A' ≤ c ∧ c ≤ 'F' then
    some (c.toNat - 'A'.toNat + 10)
  else none

/- The number four hexadecimal digits mean. -/
def hexFour?
    (a b c d : Char) : Option Nat :=
  match hexDigit? a, hexDigit? b, hexDigit? c, hexDigit? d with
  | some w, some x, some y, some z =>
      some (((w * 16 + x) * 16 + y) * 16 + z)
  | _, _, _, _ => none

/- What a backslash and one letter stand for. -/
def shortEscape? (c : Char) : Option Char :=
  match c with
  | '"' => some '"'
  | '\\' => some '\\'
  | '/' => some '/'
  | 'b' => some '\x08'
  | 'f' => some '\x0c'
  | 'n' => some '\n'
  | 'r' => some '\r'
  | 't' => some '\t'
  | _ => none

/- The first half of a surrogate pair. -/
def isHighHalf (n : Nat) : Bool :=
  0xD800 ≤ n && n < 0xDC00

/- The second half of a surrogate pair. -/
def isLowHalf (n : Nat) : Bool :=
  0xDC00 ≤ n && n < 0xE000

/-
  Read a string up to its closing quote. `done` holds the
  characters read so far, the last one first.
-/
def readString
    (done : List Char) :
    List Char → Option (String × List Char)
  | [] => none
  | '"' :: rest => some (String.ofList done.reverse, rest)
  | '\\' :: 'u' :: a :: b :: c :: d :: rest =>
      match hexFour? a b c d with
      | none => none
      | some n =>
          if isHighHalf n then
            match rest with
            | '\\' :: 'u' :: e :: f :: g :: h :: tail =>
                match hexFour? e f g h with
                | none => none
                | some m =>
                    if isLowHalf m then
                      let code := 0x10000 +
                        (n - 0xD800) * 0x400 + (m - 0xDC00)
                      readString (Char.ofNat code :: done) tail
                    else none
            | _ => none
          else if isLowHalf n then none
          else readString (Char.ofNat n :: done) rest
  | '\\' :: e :: rest =>
      match shortEscape? e with
      | none => none
      | some c => readString (c :: done) rest
  | c :: rest =>
      if c.toNat < 0x20 then none
      else if c = '\\' then none
      else readString (c :: done) rest

------------------------------------------------------------
-- Values
------------------------------------------------------------

/- How deep values may nest. -/
def maxDepth : Nat := 127

mutual

/-
  Read one value. `depth` counts the containers that may
  still be opened, `fuel` bounds the steps of the reading.
-/
def readValue :
    (fuel depth : Nat) → List Char →
    Option (Json × List Char)
  | 0, _, _ => none
  | fuel + 1, depth, cs =>
      match skipGap cs with
      | 'n' :: 'u' :: 'l' :: 'l' :: rest => some (.null, rest)
      | 't' :: 'r' :: 'u' :: 'e' :: rest =>
          some (.bool true, rest)
      | 'f' :: 'a' :: 'l' :: 's' :: 'e' :: rest =>
          some (.bool false, rest)
      | '"' :: rest =>
          (readString [] rest).map fun (s, after) =>
            (.string s, after)
      | '[' :: rest =>
          match depth with
          | 0 => none
          | depth + 1 =>
              match skipGap rest with
              | ']' :: after => some (.array [], after)
              | _ => readItems fuel depth [] rest
      | '\x7b' :: rest =>
          match depth with
          | 0 => none
          | depth + 1 =>
              match skipGap rest with
              | '\x7d' :: after => some (.object [], after)
              | _ => readFields fuel depth [] rest
      | other =>
          (readNumber other).map fun (n, after) =>
            (.number n, after)

/- Read the items of an array up to its closing bracket. -/
def readItems :
    (fuel depth : Nat) → List Json → List Char →
    Option (Json × List Char)
  | 0, _, _, _ => none
  | fuel + 1, depth, done, cs =>
      match readValue fuel depth cs with
      | none => none
      | some (item, rest) =>
          match skipGap rest with
          | ',' :: after =>
              readItems fuel depth (item :: done) after
          | ']' :: after =>
              some (.array (item :: done).reverse, after)
          | _ => none

/- Read the fields of an object up to its closing brace. -/
def readFields :
    (fuel depth : Nat) → List (String × Json) → List Char →
    Option (Json × List Char)
  | 0, _, _, _ => none
  | fuel + 1, depth, done, cs =>
      match skipGap cs with
      | '"' :: rest =>
          match readString [] rest with
          | none => none
          | some (key, rest) =>
              match skipGap rest with
              | ':' :: rest =>
                  match readValue fuel depth rest with
                  | none => none
                  | some (value, rest) =>
                      let done := (key, value) :: done
                      match skipGap rest with
                      | ',' :: after =>
                          readFields fuel depth done after
                      | '\x7d' :: after =>
                          some (.object done.reverse, after)
                      | _ => none
              | _ => none
      | _ => none

end

/-
  The value a text starts with, and what follows it. Every
  step of the reading takes a character, so the length of the
  text and one more is fuel enough.
-/
def readFront (text : String) : Option (Json × List Char) :=
  let cs := text.toList
  readValue (cs.length + 1) maxDepth cs

/- The value of a text that holds one value and blanks. -/
def read (text : String) : Option Json :=
  match readFront text with
  | some (value, rest) =>
      if (skipGap rest).isEmpty then some value else none
  | none => none

end Json

end Clickstream
