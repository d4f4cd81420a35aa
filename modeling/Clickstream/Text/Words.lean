import Clickstream.Text.Ascii

/-
  The words of a name, as they are found in file names and
  titles: runs of ASCII letters and digits, broken where a
  small letter or digit is followed by a capital.

  Key definitions:
    * `Text.isSmall`: what may follow the capitals of a word
    * `Text.rawWords`: the words as they are written
    * `Text.words`: the words in small letters
-/

namespace Clickstream

namespace Text

------------------------------------------------------------
-- Words
------------------------------------------------------------

/- A small letter or a digit. -/
def isSmall (c : Char) : Bool :=
  isLower c || isDigit c

/-
  The words of a name from left to right. A word takes as
  many capitals as there are and then as many small letters
  and digits; where neither stands, one character is skipped.
-/
def rawWords (cs : List Char) : List (List Char) :=
  match cs with
  | [] => []
  | c :: rest =>
      if isUpper c then
        let capitals := rest.takeWhile isUpper
        let small := (rest.dropWhile isUpper).takeWhile isSmall
        (c :: capitals ++ small) ::
          rawWords ((rest.dropWhile isUpper).dropWhile isSmall)
      else if isSmall c then
        (c :: rest.takeWhile isSmall) ::
          rawWords (rest.dropWhile isSmall)
      else
        rawWords rest
termination_by cs.length
decreasing_by
  · have h1 := (List.dropWhile_sublist
      (l := rest) isUpper).length_le
    have h2 := (List.dropWhile_sublist
      (l := rest.dropWhile isUpper) isSmall).length_le
    simp only [List.length_cons]
    omega
  · have h := (List.dropWhile_sublist
      (l := rest) isSmall).length_le
    simp only [List.length_cons]
    omega
  · simp

/- The words of a name in small letters. -/
def words (name : String) : List (List Char) :=
  (rawWords name.toList).map (·.map Char.toLower)

end Text

end Clickstream
