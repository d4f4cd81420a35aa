import Clickstream.Json.Basic

/-
  JSON values as text, without blanks. Control characters are
  escaped, and so are the three characters beyond ASCII that
  some readers take for the end of a line.

  Key definitions:
    * `Json.escape`
    * `Json.write`
-/

namespace Clickstream

namespace Json

------------------------------------------------------------
-- Strings
------------------------------------------------------------

/- The four hexadecimal digits of an escape. -/
def hexFour (n : Nat) : List Char :=
  let digits := Nat.toDigits 16 n
  List.replicate (4 - digits.length) '0' ++ digits

/- Whether a character is written by its code. -/
def needsCode (c : Char) : Bool :=
  c.toNat < 0x20 || c.toNat == 0x85 || c.toNat == 0x2028 ||
    c.toNat == 0x2029

/- One character between double quotes. -/
def escape (c : Char) : List Char :=
  if c = '"' then ['\\', '"']
  else if c = '\\' then ['\\', '\\']
  else if c = '\n' then ['\\', 'n']
  else if c = '\r' then ['\\', 'r']
  else if c = '\t' then ['\\', 't']
  else if needsCode c then '\\' :: 'u' :: hexFour c.toNat
  else [c]

/- A text between double quotes. -/
def writeString (s : String) : String :=
  String.ofList ('"' :: s.toList.flatMap escape ++ ['"'])

------------------------------------------------------------
-- Values
------------------------------------------------------------

/- A number in decimal digits. -/
def writeNumber : Number → String
  | .whole n => toString n
  | .scientific m e => toString m ++ "e" ++ toString e

mutual

/- A value as text. -/
def write : Json → String
  | .null => "null"
  | .bool true => "true"
  | .bool false => "false"
  | .number n => writeNumber n
  | .string s => writeString s
  | .array items =>
      "[" ++ String.intercalate "," (writeItems items) ++ "]"
  | .object fields =>
      "\x7b" ++ String.intercalate "," (writeFields fields) ++
        "\x7d"

/- The items of an array as texts. -/
def writeItems : List Json → List String
  | [] => []
  | item :: rest => write item :: writeItems rest

/- The fields of an object as texts. -/
def writeFields : List (String × Json) → List String
  | [] => []
  | (key, value) :: rest =>
      (writeString key ++ ":" ++ write value) ::
        writeFields rest

end

end Json

end Clickstream
