import Clickstream.Text.Ascii
import Clickstream.Css.Quoted

/-
  Identifiers of style sheets: the names after `#` and `.`.

  Key definitions:
    * `Css.isPlainIdentifier`: names written as they are
    * `Css.escapeIdentifier`: any name as one identifier
    * `Css.classSelector`, `Css.idSelector`
    * `Css.readIdentifier`: the name of the identifier at the
      front of a text
    * `Css.readClasses`: the names of a row of class selectors
-/

namespace Clickstream

namespace Css

------------------------------------------------------------
-- Writing
------------------------------------------------------------

/- Letters, digits, hyphen and underscore of ASCII. -/
def isNameChar (c : Char) : Bool :=
  Text.isAlphanumeric c || c == '-' || c == '_'

/- The control characters of Unicode. -/
def isControl (c : Char) : Bool :=
  c.toNat < 0x20 || (0x7F ≤ c.toNat && c.toNat ≤ 0x9F)

/- A character as hexadecimal escape, closed by a space. -/
def hexEscape (c : Char) : List Char :=
  '\\' :: Nat.toDigits 16 c.toNat ++ [' ']

/- How a character is written where a digit may stand. -/
def escapeInner (c : Char) : List Char :=
  if isControl c then hexEscape c
  else if isNameChar c || !Text.isAscii c then [c]
  else ['\\', c]

/- How a character is written where no digit may stand. -/
def escapeLeading (c : Char) : List Char :=
  if Text.isDigit c then hexEscape c else escapeInner c

/-
  Any name as one identifier. No digit may stand first or
  after a first hyphen, and a hyphen alone is no identifier.
-/
def escapeIdentifier : List Char → List Char
  | [] => []
  | ['-'] => ['\\', '-']
  | '-' :: c :: rest =>
      '-' :: escapeLeading c ++ rest.flatMap escapeInner
  | c :: rest =>
      escapeLeading c ++ rest.flatMap escapeInner

/- The selector of elements that have this class. -/
def classSelector (name : String) : String :=
  String.ofList ('.' :: escapeIdentifier name.toList)

/- A letter or underscore followed by name characters. -/
def isPlainIdentifier : List Char → Bool
  | [] => false
  | c :: rest =>
      (Text.isLetter c || c == '_') && rest.all isNameChar

/-
  The selector of the element with this id: a hash and the
  id where that is a plain identifier, else an attribute.
-/
def idSelector (id : String) : String :=
  if isPlainIdentifier id.toList then "#" ++ id
  else attributeSelector "id" id

------------------------------------------------------------
-- Reading
------------------------------------------------------------

/- Characters that stand for themselves in an identifier. -/
def isIdentifierChar (c : Char) : Bool :=
  isNameChar c || !Text.isAscii c

/-
  Read the rest of an identifier: characters that stand for
  themselves and escapes, as far as they go. The second part
  is what follows. The fuel bounds the characters read.
-/
def readName :
    Nat → List Char → List Char × List Char
  | _, [] => ([], [])
  | 0, cs => ([], cs)
  | fuel + 1, c :: rest =>
      if isIdentifierChar c then
        let (name, after) := readName fuel rest
        (c :: name, after)
      else if c = '\\' then
        match readEscape rest with
        | some (d, tail) =>
            let (name, after) := readName fuel tail
            (d :: name, after)
        | none => ([], c :: rest)
      else
        ([], c :: rest)

/-
  An identifier may start with a letter, an underscore, a
  non-ASCII character or an escape, also after one hyphen;
  two hyphens start one too.
-/
def startsIdentifier : List Char → Bool
  | [] => false
  | '-' :: rest =>
      match rest with
      | [] => false
      | c :: tail =>
          c == '-' || Text.isLetter c || c == '_' ||
            !Text.isAscii c ||
            (c == '\\' && (readEscape tail).isSome)
  | c :: rest =>
      Text.isLetter c || c == '_' || !Text.isAscii c ||
        (c == '\\' && (readEscape rest).isSome)

/-
  The name of the identifier at the front of a text, and what
  follows it.
-/
def readIdentifier
    (cs : List Char) : Option (List Char × List Char) :=
  if startsIdentifier cs then some (readName cs.length cs)
  else none

/- The names of a row of class selectors and nothing else. -/
def readClassesFrom :
    Nat → List Char → Option (List (List Char))
  | _, [] => some []
  | 0, _ :: _ => none
  | fuel + 1, c :: rest =>
      if c = '.' then
        match readIdentifier rest with
        | some (name, after) =>
            (readClassesFrom fuel after).map (name :: ·)
        | none => none
      else
        none

/- `readClassesFrom` with fuel for the whole text. -/
def readClasses (cs : List Char) :
    Option (List (List Char)) :=
  readClassesFrom cs.length cs

end Css

end Clickstream
