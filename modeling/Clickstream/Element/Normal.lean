import Clickstream.Text.Blank
import Clickstream.Text.Ascii
import Clickstream.Element.Basic

/-
  The normal form of an element: names in small letters,
  values without blanks around them, and nothing that is
  blank.

  Key definitions:
    * `PathNode.normalise`, `Host.normalise`
    * `Attributes.normalise`
    * `Element.normalise`
-/

namespace Clickstream

------------------------------------------------------------
-- Parts
------------------------------------------------------------

/- A name without blanks around it and in small letters. -/
def normalName (s : String) : String :=
  Text.lower (Text.trim s)

namespace PathNode

/- The normal form of one level of a path. -/
def normalise (node : PathNode) : PathNode :=
  { node with
    tagName := normalName node.tagName
    id := node.id.bind Text.nonBlank
    classes :=
      node.classes.filter (fun c => !Text.isBlankText c) }

end PathNode

namespace Host

/-
  The normal form of a host. Its classes stay as they are;
  those on its path do not.
-/
def normalise (host : Host) : Host :=
  { host with
    tagName := normalName host.tagName
    id := host.id.bind Text.nonBlank
    name := host.name.bind Text.nonBlank
    src := host.src.bind Text.nonBlank
    path := host.path.map PathNode.normalise }

end Host

namespace Attributes

/- The normal form of one entry, unless a part is blank. -/
def normalEntry
    (entry : String × String) : Option (String × String) :=
  if Text.isBlankText entry.1 || Text.isBlankText entry.2 then
    none
  else
    some (normalName entry.1, Text.trim entry.2)

/-
  The normal form of a table. Where two names become one, the
  value of the name that came later in the order stays.
-/
def normalise (table : Attributes) : Attributes :=
  ofList (table.entries.filterMap normalEntry)

end Attributes

------------------------------------------------------------
-- Elements
------------------------------------------------------------

namespace Element

/- The normal form of an element. -/
def normalise (e : Element) : Element :=
  { e with
    tagName := normalName e.tagName
    attributes := e.attributes.normalise
    textContent := e.textContent.bind Text.nonBlank
    labelText := e.labelText.bind Text.nonBlank
    path := e.path.map PathNode.normalise
    hosts := e.hosts.map Host.normalise }

/- What the form control holds has a normal form already. -/
theorem form_normalise (e : Element) :
    e.normalise.form = e.form := by
  unfold normalise
  rfl

theorem inRecorderOverlay_normalise (e : Element) :
    e.normalise.inRecorderOverlay = e.inRecorderOverlay := by
  unfold normalise
  rfl

end Element

end Clickstream
