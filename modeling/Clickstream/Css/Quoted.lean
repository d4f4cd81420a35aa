/-
  Strings of style sheets between double quotes, and the
  attribute selectors built from them. Writing puts a
  backslash before a backslash and before a double quote;
  reading knows every escape of the standard: a hexadecimal
  escape with its closing blank, an escaped line end, and any
  other character after a backslash.

  Key definitions:
    * `Css.escapeQuoted`, `Css.attributeSelector`
    * `Css.isHexDigit`, `Css.hexEscape`
    * `Css.readQuoted`
-/

namespace Clickstream

namespace Css

------------------------------------------------------------
-- Writing
------------------------------------------------------------

/- A text as it stands between double quotes. -/
def escapeQuotedChars (cs : List Char) : List Char :=
  cs.flatMap fun c =>
    if c = '\\' ∨ c = '"' then ['\\', c] else [c]

/- `escapeQuotedChars` on texts. -/
def escapeQuoted (s : String) : String :=
  String.ofList (escapeQuotedChars s.toList)

/- The selector of elements whose attribute has this value. -/
def attributeSelector
    (name : String)
    (value : String) : String :=
  "[" ++ name ++ "=\"" ++ escapeQuoted value ++ "\"]"

------------------------------------------------------------
-- Hexadecimal Escapes
------------------------------------------------------------

/- A digit of a hexadecimal escape, in either case. -/
def isHexDigit (c : Char) : Bool :=
  ('0' ≤ c && c ≤ '9') || ('a' ≤ c && c ≤ 'f') ||
    ('A' ≤ c && c ≤ 'F')

/- The value of a hexadecimal digit. -/
def hexValue (c : Char) : Nat :=
  if c ≤ '9' then c.toNat - '0'.toNat
  else if c ≤ 'F' then c.toNat - 'A'.toNat + 10
  else c.toNat - 'a'.toNat + 10

/- The number that a row of hexadecimal digits means. -/
def ofHexDigits (cs : List Char) : Nat :=
  cs.foldl (fun n c => 16 * n + hexValue c) 0

/-
  The character a hexadecimal escape stands for. Zero,
  surrogates and what lies above the last code point stand
  for the replacement character.
-/
def hexChar (cs : List Char) : Char :=
  let n := ofHexDigits cs
  if n = 0 ∨ ¬ n.isValidChar then '\ufffd' else Char.ofNat n

/- The blanks that may close a hexadecimal escape. -/
def isEscapeBlank (c : Char) : Bool :=
  c == ' ' || c == '\n' || c == '\t' || c == '\r' ||
    c == '\x0c'

/-
  Read what follows the backslash of an escape that is not an
  escaped line end: up to six hexadecimal digits and one
  blank, or one character that stands for itself.
-/
def readEscape :
    List Char → Option (Char × List Char)
  | [] => none
  | c :: rest =>
      if isHexDigit c then
        let digits := c :: (rest.take 5).takeWhile isHexDigit
        let after := rest.drop (digits.length - 1)
        match after with
        | d :: tail =>
            if isEscapeBlank d then some (hexChar digits, tail)
            else some (hexChar digits, after)
        | [] => some (hexChar digits, [])
      else if c = '\n' ∨ c = '\r' ∨ c = '\x0c' then
        none
      else
        some (c, rest)

------------------------------------------------------------
-- Reading
------------------------------------------------------------

/-
  Read the inside of a quoted string to its end. A double
  quote without a backslash and a raw line end belong to no
  such string; a backslash before a line end is dropped with
  it. The fuel bounds the number of characters read.
-/
def readQuotedFrom :
    Nat → List Char → Option (List Char)
  | _, [] => some []
  | 0, _ :: _ => none
  | fuel + 1, c :: rest =>
      if c = '"' ∨ c = '\n' ∨ c = '\r' ∨ c = '\x0c' then
        none
      else if c = '\\' then
        match rest with
        | '\n' :: tail => readQuotedFrom fuel tail
        | _ =>
            match readEscape rest with
            | some (d, tail) =>
                (readQuotedFrom fuel tail).map (d :: ·)
            | none => none
      else
        (readQuotedFrom fuel rest).map (c :: ·)

/-
  The text that the inside of a quoted string stands for, if
  all of it is the inside of one string.
-/
def readQuoted (cs : List Char) : Option (List Char) :=
  readQuotedFrom cs.length cs

end Css

end Clickstream
