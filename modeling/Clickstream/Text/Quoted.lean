/-
  String literals between two equal quotation marks. Five
  characters are written with a backslash before them or for
  them: the backslash, the mark itself, line feed, carriage
  return and tab. Everything else stands for itself.

  Key definitions:
    * `Text.Quoted.escape`: one character inside a literal
    * `Text.Quoted.write`: a text as a literal
    * `Text.Quoted.readBody`: the text up to the closing mark
    * `Text.Quoted.read`: the text of a whole literal
-/

namespace Clickstream

namespace Text

namespace Quoted

------------------------------------------------------------
-- Writing
------------------------------------------------------------

/- How one character is written between marks. -/
def escape
    (mark : Char)
    (c : Char) : List Char :=
  if c = '\\' then ['\\', '\\']
  else if c = mark then ['\\', mark]
  else if c = '\n' then ['\\', 'n']
  else if c = '\r' then ['\\', 'r']
  else if c = '\t' then ['\\', 't']
  else [c]

/- A text as a literal, marks included. -/
def writeChars
    (mark : Char)
    (cs : List Char) : List Char :=
  mark :: cs.flatMap (escape mark) ++ [mark]

/- `writeChars` on texts. -/
def write
    (mark : Char)
    (s : String) : String :=
  String.ofList (writeChars mark s.toList)

------------------------------------------------------------
-- Reading
------------------------------------------------------------

/- What a backslash and the character after it stand for. -/
def unescape
    (mark : Char)
    (c : Char) : Option Char :=
  if c = '\\' then some '\\'
  else if c = mark then some mark
  else if c = 'n' then some '\n'
  else if c = 'r' then some '\r'
  else if c = 't' then some '\t'
  else none

/-
  Read up to the first mark that no backslash stands before;
  the second part is what follows that mark. A raw line feed
  or carriage return ends no literal and belongs to none.
-/
def readBody
    (mark : Char) :
    List Char → Option (List Char × List Char)
  | [] => none
  | c :: rest =>
      if c = mark then
        some ([], rest)
      else if c = '\\' then
        match rest with
        | [] => none
        | d :: tail =>
            match unescape mark d, readBody mark tail with
            | some e, some (body, after) =>
                some (e :: body, after)
            | _, _ => none
      else if c = '\n' ∨ c = '\r' then
        none
      else
        match readBody mark rest with
        | some (body, after) => some (c :: body, after)
        | none => none

/- Read one literal at the front of a text. -/
def readFront
    (mark : Char) :
    List Char → Option (List Char × List Char)
  | [] => none
  | c :: rest => if c = mark then readBody mark rest else none

/- The text that a literal stands for, if it is exactly one. -/
def read
    (mark : Char)
    (cs : List Char) : Option (List Char) :=
  match readFront mark cs with
  | some (body, []) => some body
  | _ => none

end Quoted

end Text

end Clickstream
