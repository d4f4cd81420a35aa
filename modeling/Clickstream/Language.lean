import Clickstream.Text.Blank
import Clickstream.Text.Ascii
import Clickstream.Json.Shape

/-
  The languages in which tests are written.

  Key definitions:
    * `Language`, `Language.all`
    * `Language.fullName`, `Language.fileExtension`
    * `Language.ofText?`: names as people type them
    * `Language.ofWireName?`: names as requests spell them
    * `Language.testFileName`
-/

namespace Clickstream

------------------------------------------------------------
-- Languages
------------------------------------------------------------

/- The language of a test script. -/
inductive Language where
  | javaScript
  | typeScript
  | python
  | java
deriving DecidableEq, Repr, Inhabited

namespace Language

/- Every language. -/
def all : List Language :=
  [.javaScript, .typeScript, .python, .java]

/- The name of a language in small letters. -/
def fullName : Language → String
  | .javaScript => "javascript"
  | .typeScript => "typescript"
  | .python => "python"
  | .java => "java"

/- The usual extension of files in a language. -/
def fileExtension : Language → String
  | .javaScript => "js"
  | .typeScript => "ts"
  | .python => "py"
  | .java => "java"

------------------------------------------------------------
-- Names
------------------------------------------------------------

/- The language with this full name or file extension. -/
def ofWireName? (name : String) : Option Language :=
  all.find? fun language =>
    language.fullName = name || language.fileExtension = name

/- What a typed name looks like once blanks and case are gone. -/
def typedName (text : String) : String :=
  Text.lower (Text.trim text)

/- The language with a typed name. -/
def ofText? (text : String) : Option Language :=
  ofWireName? (typedName text)

/- The complaint about a typed name of no language. -/
def unsupportedMessage (text : String) : String :=
  "unsupported language: " ++ typedName text

/- The shape of a written language. -/
def shape : Json.Shape :=
  .ofChoice ofWireName?

/- Read a language. -/
def ofJson? (value : Json) : Option Language :=
  value.choice?.bind ofWireName?

/- Write a language. -/
def toJson (language : Language) : Json :=
  .string language.fullName

------------------------------------------------------------
-- Test Files
------------------------------------------------------------

/- The name of a recording that was given none. -/
def fallbackTestName : String :=
  "recorded-test"

/- The trimmed name of a recording, or the fallback. -/
def testName (fileName : String) : String :=
  (Text.nonBlank fileName).getD fallbackTestName

/- The file for the test of a recording with this name. -/
def testFileName
    (language : Language)
    (fileName : String) : String :=
  testName fileName ++ ".spec." ++ language.fileExtension

end Language

end Clickstream
