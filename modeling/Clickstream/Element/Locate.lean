import Clickstream.Element.Facts
import Clickstream.Element.Path

/-
  Locating: the selector by which an element is found again,
  and the frames on the way to it. Every strategy has one
  rule; the rules are tried in the order of trust, and the
  last one always applies.

  Key definitions:
    * `Element.testId?`, …, `Element.className?`: the rules
    * `Element.rules`
    * `Element.locate`
    * `Host.locate`
    * `Element.frames`
-/

namespace Clickstream

namespace Element

------------------------------------------------------------
-- Rules
------------------------------------------------------------

/- The attributes that hold test ids, in order. -/
def testIdAttributes : List String :=
  ["data-testid", "data-test", "data-qa", "data-cy"]

/- The first test id there is. -/
def testId? (e : Element) : Option Selector :=
  testIdAttributes.findSome? fun name =>
    (e.attr? name).map fun value => Selector.testId value name

/- Names of roles are shorter than this. -/
def roleNameBound : Nat := 50

/- The label for readers of the page, or a short text. -/
def accessibleName? (e : Element) : Option String :=
  match e.attr? "aria-label" with
  | some label => some label
  | none =>
      e.trimmedText?.filter
        (fun text => text.toList.length < roleNameBound)

/- The role, if it comes with a name. -/
def namedRole? (e : Element) : Option Selector :=
  match e.role?, e.accessibleName? with
  | some role, some name => some (Selector.role role (some name))
  | _, _ => none

/- The text of the label. -/
def labelled? (e : Element) : Option Selector :=
  (e.labelText.filter (fun text => text ≠ "")).map
    Selector.label

/- The placeholder. -/
def placeholder? (e : Element) : Option Selector :=
  (e.attr? "placeholder").map Selector.placeholder

/- The alternative text of an image. -/
def alternative? (e : Element) : Option Selector :=
  if e.hasTag ["img"] then
    (e.attr? "alt").map Selector.altText
  else
    none

/- The title. -/
def titled? (e : Element) : Option Selector :=
  (e.attr? "title").map Selector.title

/- The id, if it is the only one of its kind. -/
def identified? (e : Element) : Option Selector :=
  e.uniqueId?.map Selector.uniqueId

/- The name of a form field. -/
def named? (e : Element) : Option Selector :=
  (e.attr? "name").map Selector.name

/- The class attribute. -/
def className? (e : Element) : Option Selector :=
  (e.attr? "class").map Selector.classAttribute

/- The place on the page, the tag, or any element at all. -/
def structuralPath (e : Element) : String :=
  let path := Path.stable e.path
  if path ≠ "" then path
  else if e.tagName ≠ "" then e.tagName
  else "*"

/- The rules in the order of trust, without the last one. -/
def rules : List (Element → Option Selector) :=
  [testId?, namedRole?, labelled?, placeholder?,
    alternative?, titled?, identified?, named?, className?]

/- The selector of the first rule that applies. -/
def locate (e : Element) : Selector :=
  (rules.findSome? (fun rule => rule e)).getD
    (Selector.cssPath e.structuralPath)

end Element

------------------------------------------------------------
-- Hosts
------------------------------------------------------------

namespace Host

/- A path, or the tag where the path is empty. -/
def pathOrTag
    (host : Host)
    (path : String) : String :=
  if path = "" then host.tagName else path

/- What follows the last slash of an address, if anything. -/
def lastSegment? (src : String) : Option String :=
  let segment := Text.afterLast (· == '/') src.toList
  if segment.isEmpty then none
  else some (String.ofList segment)

/- The selector of an iframe without an id. -/
def iframePath (host : Host) : String :=
  match host.name, host.src.bind lastSegment? with
  | some name, _ =>
      "iframe" ++ Css.attributeSelector "name" name
  | none, some segment =>
      "iframe[src*=\"" ++ Css.escapeQuoted segment ++ "\"]"
  | none, none => host.pathOrTag (Path.full host.path)

/- The selector of a shadow host without an id. -/
def shadowPath (host : Host) : String :=
  if host.classes.isEmpty then
    host.pathOrTag (Path.stable host.path)
  else
    String.join (host.classes.map Css.classSelector)

/- The selector of a host. -/
def locate (host : Host) : Selector :=
  match host.id with
  | some id => Selector.uniqueId id
  | none =>
      match host.kind with
      | .iframe => Selector.cssPath host.iframePath
      | .shadow => Selector.cssPath host.shadowPath

/- The frame that a host opens. -/
def frame (host : Host) : Frame :=
  ⟨host.kind, host.locate⟩

end Host

namespace Element

/- The frames on the way to an element. -/
def frames (e : Element) : FramePath :=
  e.hosts.map Host.frame

end Element

end Clickstream
