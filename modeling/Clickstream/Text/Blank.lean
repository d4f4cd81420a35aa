/-
  Blank characters, trimming, and texts that hold nothing
  but blanks. A character is blank when Unicode gives it the
  property White_Space; zero-width space and the byte-order
  mark do not have it.

  Key definitions:
    * `Text.isBlank`
    * `Text.trimChars`, `Text.trim`
    * `Text.isBlankText`
    * `Text.nonBlank`
-/

namespace Clickstream

namespace Text

------------------------------------------------------------
-- Blank Characters
------------------------------------------------------------

/- The characters with the Unicode property White_Space. -/
def isBlank (c : Char) : Bool :=
  let n := c.toNat
  (9 ≤ n && n ≤ 13) || n == 0x20 || n == 0x85 ||
    n == 0xA0 || n == 0x1680 ||
    (0x2000 ≤ n && n ≤ 0x200A) || n == 0x2028 ||
    n == 0x2029 || n == 0x202F || n == 0x205F ||
    n == 0x3000

------------------------------------------------------------
-- Trimming
------------------------------------------------------------

/- Drop the blanks at the front. -/
def trimFront (cs : List Char) : List Char :=
  cs.dropWhile isBlank

/- Drop the blanks at the end. -/
def trimBack (cs : List Char) : List Char :=
  (cs.reverse.dropWhile isBlank).reverse

/- Drop the blanks at both ends. -/
def trimChars (cs : List Char) : List Char :=
  trimBack (trimFront cs)

/- `trimChars` on texts. -/
def trim (s : String) : String :=
  String.ofList (trimChars s.toList)

/- A text without any character that is not blank. -/
def isBlankText (s : String) : Bool :=
  s.toList.all isBlank

/- The trimmed text, unless nothing is left of it. -/
def nonBlank (s : String) : Option String :=
  if isBlankText s then none else some (trim s)

end Text

end Clickstream
