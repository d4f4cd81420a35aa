import Clickstream.Text.Words

/-
  Names of tests as names of programs.

  Key definitions:
    * `Script.snakeName`: words joined with underscores
    * `Script.pascalName`: the name of a class
    * `Script.camelName`: the name of a method
-/

namespace Clickstream

namespace Script

------------------------------------------------------------
-- Names
------------------------------------------------------------

/- Whether a word starts with a digit. -/
def startsWithDigit (cs : List Char) : Bool :=
  match cs with
  | c :: _ => Text.isDigit c
  | [] => false

/- A function name: `test` and the words of the name. -/
def snakeName (testName : String) : String :=
  match Text.words testName with
  | [] => "test_recorded"
  | words =>
      "test_" ++
        String.intercalate "_" (words.map String.ofList)

/- A class name: the words with capitals, and `Test`. -/
def pascalName (testName : String) : String :=
  let joined :=
    ((Text.words testName).map Text.capitalize).flatten
  if joined.isEmpty then "RecordedTest"
  else if startsWithDigit joined then
    "Recorded" ++ String.ofList joined ++ "Test"
  else String.ofList joined ++ "Test"

/- A method name: the words, with capitals from the second. -/
def camelName (testName : String) : String :=
  match Text.words testName with
  | [] => "recorded"
  | first :: others =>
      let joined :=
        first ++ (others.map Text.capitalize).flatten
      if startsWithDigit joined then
        "test" ++ String.ofList joined
      else String.ofList joined

end Script

end Clickstream
