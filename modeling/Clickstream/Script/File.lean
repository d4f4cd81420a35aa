import Clickstream.Script.Dialects
import Clickstream.Script.Layout

/-
  Files: the finished test of a recording.

  Key definitions:
    * `Language.contentType`
    * `Script.generate`: the code of a test
    * `TestFile`, `Script.generateFile`
-/

namespace Clickstream

/- The content type of files in a language. -/
def Language.contentType : Language → String
  | .javaScript => "text/javascript"
  | .typeScript => "application/typescript"
  | .python => "text/plain"
  | .java => "application/octet-stream"

/- A test, ready to be saved. -/
structure TestFile where
  code : String
  fileName : String
  contentType : String
deriving DecidableEq, Repr, Inhabited

namespace Script

/- The code of the test of a recording. -/
def generate
    (settings : Plan.Settings)
    (language : Language)
    (testName : String)
    (startUrl : Option String)
    (actions : List Action) : String :=
  language.dialect.render testName settings.placeholderUrl
    (Plan.build settings startUrl actions)

/- The file of the test of a recording. -/
def generateFile
    (settings : Plan.Settings)
    (language : Language)
    (fileName : String)
    (startUrl : Option String)
    (actions : List Action) : TestFile :=
  let testName := Language.testName fileName
  { code := generate settings language testName startUrl actions
    fileName := language.testFileName testName
    contentType := language.contentType }

end Script

end Clickstream
