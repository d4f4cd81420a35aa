/-
  Letters and digits of the ASCII range, and case maps that
  leave every other character alone.

  Key definitions:
    * `Text.isLower`, `Text.isUpper`, `Text.isDigit`
    * `Text.isAlphanumeric`
    * `Text.lower`, `Text.upper`
    * `Text.capitalize`
-/

namespace Clickstream

namespace Text

------------------------------------------------------------
-- Classes
------------------------------------------------------------

/- The letters `a` to `z`. -/
def isLower (c : Char) : Bool :=
  'a' ≤ c && c ≤ 'z'

/- The letters `A` to `Z`. -/
def isUpper (c : Char) : Bool :=
  'A' ≤ c && c ≤ 'Z'

/- The digits `0` to `9`. -/
def isDigit (c : Char) : Bool :=
  '0' ≤ c && c ≤ '9'

/- ASCII letters of either case. -/
def isLetter (c : Char) : Bool :=
  isLower c || isUpper c

/- ASCII letters and digits. -/
def isAlphanumeric (c : Char) : Bool :=
  isLetter c || isDigit c

/- The characters below 128. -/
def isAscii (c : Char) : Bool :=
  c.toNat < 128

------------------------------------------------------------
-- Case Maps
------------------------------------------------------------

/- Lowercase the ASCII letters of a text. -/
def lower (s : String) : String :=
  String.ofList (s.toList.map Char.toLower)

/- Uppercase the ASCII letters of a text. -/
def upper (s : String) : String :=
  String.ofList (s.toList.map Char.toUpper)

/- Uppercase the first character, if it is a letter. -/
def capitalize (cs : List Char) : List Char :=
  match cs with
  | [] => []
  | c :: rest => c.toUpper :: rest

end Text

end Clickstream
