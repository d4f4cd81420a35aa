/-
  Cutting texts at separators and at lengths counted in
  characters.

  Key definitions:
    * `Text.splitPair`: cut at a separator of two characters
    * `Text.afterLast`: what follows the last separator
    * `Text.includes`: whether a text has another within
    * `Text.firstChars`, `Text.limit`
-/

namespace Clickstream

namespace Text

------------------------------------------------------------
-- Separators
------------------------------------------------------------

/-
  Cut at every occurrence of the two-character separator
  `a b`, read from the left. There is always at least one
  part, and a separator at an end leaves an empty part there.
-/
def splitPair
    (a b : Char) :
    List Char → List (List Char)
  | [] => [[]]
  | c :: rest =>
      match rest with
      | [] => [[c]]
      | d :: tail =>
          if c = a ∧ d = b then
            [] :: splitPair a b tail
          else
            match splitPair a b (d :: tail) with
            | [] => [[c]]
            | part :: parts => (c :: part) :: parts

/- The parts of a list written with a comma and a space. -/
def splitList (s : String) : List String :=
  (splitPair ',' ' ' s.toList).map String.ofList

/- Parts written as one list with a comma and a space. -/
def joinList (parts : List String) : String :=
  String.intercalate ", " parts

/- What follows the last character that `isSeparator` takes. -/
def afterLast
    (isSeparator : Char → Bool)
    (cs : List Char) : List Char :=
  (cs.reverse.takeWhile (fun c => !isSeparator c)).reverse

/- Whether a text stands somewhere within another one. -/
def includes (part : List Char) : List Char → Bool
  | [] => part.isEmpty
  | c :: rest =>
      part.isPrefixOf (c :: rest) || includes part rest

------------------------------------------------------------
-- Lengths
------------------------------------------------------------

/- The first `n` characters. -/
def firstChars
    (n : Nat)
    (s : String) : String :=
  String.ofList (s.toList.take n)

/-
  A text of more than `n` characters is cut to its first `n`
  and marked with three dots.
-/
def limit
    (n : Nat)
    (s : String) : String :=
  if n < s.toList.length then firstChars n s ++ "..." else s

end Text

end Clickstream
