/-
  Texts made of lines. Every line ends in a line feed, the
  last one too.

  Key definitions:
    * `Text.unlines`
    * `Text.indent`
    * `Text.oneLine`: a text folded onto one line
-/

namespace Clickstream

namespace Text

------------------------------------------------------------
-- Lines
------------------------------------------------------------

/- The text of a list of lines. -/
def unlines (lines : List String) : String :=
  String.join (lines.map (· ++ "\n"))

/- A line moved in by `depth` units. -/
def indent
    (unit : String)
    (depth : Nat)
    (line : String) : String :=
  String.join (List.replicate depth unit) ++ line

/-
  The characters that some reader of program text takes for
  the end of a line.
-/
def isLineEnd (c : Char) : Bool :=
  c == '\n' || c == '\r' || c == '\u2028' || c == '\u2029'

/- A text with a space for each end of line. -/
def oneLine (cs : List Char) : List Char :=
  cs.map (fun c => if isLineEnd c then ' ' else c)

end Text

end Clickstream
