import Clickstream.Text.Split
import Clickstream.Action.Basic
import Clickstream.Capture.Settings

/-
  Sanitising: what is taken out of an action before anyone
  sees it. A password gives way to a marker, an uploaded file
  keeps its name without the folders, and long texts are cut.

  Key definitions:
    * `Action.isPassword`
    * `Capture.fileName`, `Capture.fileNames`
    * `Settings.sanitiseValue`
    * `Settings.sanitise`
-/

namespace Clickstream

/- Whether an action was done to a password field. -/
def Action.isPassword (a : Action) : Bool :=
  a.inputType = some "password"

namespace Capture

------------------------------------------------------------
-- File Names
------------------------------------------------------------

/- The two signs between folders. -/
def isFolderSign (c : Char) : Bool :=
  c == '/' || c == '\\'

/- A path without its folders. -/
def fileName (path : String) : String :=
  String.ofList (Text.afterLast isFolderSign path.toList)

/- A list of paths, each without its folders. -/
def fileNames (paths : String) : String :=
  Text.joinList ((Text.splitList paths).map fileName)

------------------------------------------------------------
-- Sanitising
------------------------------------------------------------

namespace Settings

/- The value of an action, fit to be seen. -/
def sanitiseValue
    (settings : Settings)
    (password upload : Bool) :
    Action.Value → Action.Value
  | .text t =>
      if password then .text settings.marker
      else if upload then
        .text (Text.limit settings.valueLimit (fileNames t))
      else .text (Text.limit settings.valueLimit t)
  | .list items =>
      .list (items.map (Text.limit settings.valueLimit))
  | .flag b => .flag b

/-
  An action fit to be seen. What a password field shows as
  its text goes too.
-/
def sanitise
    (settings : Settings)
    (a : Action) : Action :=
  { a with
    value := a.value.map
      (settings.sanitiseValue a.isPassword (a.kind = .upload))
    text :=
      if a.isPassword then none
      else a.text.map (Text.limit settings.valueLimit) }

end Settings

end Capture

end Clickstream
