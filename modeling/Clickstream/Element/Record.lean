import Clickstream.Element.Basic

/-
  Elements as JSON records. Every field may be missing, and
  then has its default value.

  Key definitions:
    * `Attributes.ofJson?`
    * `Element.ofJsonWith?`, `Element.ofJson?`
    * `Style.toJson`, `FormState.toJson`, `PathNode.toJson`,
      `Host.toJson`
-/

namespace Clickstream

open Json (text? flag? count? real? listOf?)

------------------------------------------------------------
-- Reading Parts
------------------------------------------------------------

/- Read one entry of a table of texts. -/
def Attributes.entryOfJson?
    (field : String × Json) : Option (String × String) :=
  (text? field.2).map fun value => (field.1, value)

/- Read a table of texts. -/
def Attributes.ofJson? : Json → Option Attributes
  | .object fields =>
      (fields.mapM entryOfJson?).map ofList
  | _ => none

/- Read a style. -/
def Style.ofJson? (value : Json) : Option Style := do
  let fields ← value.record?
    ["cursor", "display", "visibility"] 0
  let cursor ← fields.optional "cursor" text?
  let display ← fields.optional "display" text?
  let visibility ← fields.optional "visibility" text?
  return { cursor, display, visibility }

/- Read a rectangle. -/
def Rect.ofJson? (value : Json) : Option Rect := do
  let fields ← value.record?
    ["top", "left", "bottom", "right"] 0
  let top ← fields.withDefault "top" 0 real?
  let left ← fields.withDefault "left" 0 real?
  let bottom ← fields.withDefault "bottom" 0 real?
  let right ← fields.withDefault "right" 0 real?
  return { top, left, bottom, right }

/- Read the size of a window. -/
def Viewport.ofJson? (value : Json) : Option Viewport := do
  let fields ← value.record? ["width", "height"] 0
  let width ← fields.withDefault "width" 1280 real?
  let height ← fields.withDefault "height" 720 real?
  return { width, height }

/- Read what a form control held. -/
def FormState.ofJson? (value : Json) : Option FormState := do
  let fields ← value.record?
    ["value", "checked", "multiple", "selectedValues",
      "selectedText", "fileNames"] 0
  let value ← fields.optional "value" text?
  let checked ← fields.optional "checked" flag?
  let multiple ← fields.withDefault "multiple" false flag?
  let selectedValues ← fields.withDefault "selectedValues" []
    (listOf? text?)
  let selectedText ← fields.optional "selectedText" text?
  let fileNames ← fields.withDefault "fileNames" []
    (listOf? text?)
  return {
    value, checked, multiple, selectedValues, selectedText,
    fileNames }

/- Read one level of a path. -/
def PathNode.ofJson? (value : Json) : Option PathNode := do
  let fields ← value.record?
    ["tagName", "id", "classes", "sameTagCount",
      "childIndex"] 0
  let tagName ← fields.withDefault "tagName" "" text?
  let id ← fields.optional "id" text?
  let classes ← fields.withDefault "classes" []
    (listOf? text?)
  let sameTagCount ← fields.withDefault "sameTagCount" 0
    count?
  let childIndex ← fields.withDefault "childIndex" 0 count?
  return { tagName, id, classes, sameTagCount, childIndex }

/- Read a host whose kind is named as `readName` says. -/
def Host.ofJsonWith?
    (readName : Json → Option String)
    (value : Json) : Option Host := do
  let fields ← value.record?
    ["kind", "tagName", "id", "name", "src", "classes",
      "path"] 0
  let kind ← fields.withDefault "kind" .iframe fun value =>
    (readName value).bind Frame.Kind.ofWireName?
  let tagName ← fields.withDefault "tagName" "iframe" text?
  let id ← fields.optional "id" text?
  let name ← fields.optional "name" text?
  let src ← fields.optional "src" text?
  let classes ← fields.withDefault "classes" []
    (listOf? text?)
  let path ← fields.withDefault "path" []
    (listOf? PathNode.ofJson?)
  return { kind, tagName, id, name, src, classes, path }

------------------------------------------------------------
-- Reading Elements
------------------------------------------------------------

namespace Element

/- The names of the fields in order. -/
def fieldNames : List String :=
  ["tagName", "attributes", "textContent", "labelText",
    "idMatchCount", "style", "rect", "hasLayoutBox",
    "viewport", "disabled", "form", "hasClickHandler",
    "inRecorderOverlay", "path", "boundaries"]

/- Read an element; `readName` reads the kinds of its hosts. -/
def ofJsonWith?
    (readName : Json → Option String)
    (value : Json) : Option Element := do
  let fields ← value.record? fieldNames 0
  let tagName ← fields.withDefault "tagName" "" text?
  let attributes ← fields.withDefault "attributes"
    Attributes.empty Attributes.ofJson?
  let textContent ← fields.optional "textContent" text?
  let labelText ← fields.optional "labelText" text?
  let idMatchCount ← fields.withDefault "idMatchCount" 0
    count?
  let style ← fields.withDefault "style" {} Style.ofJson?
  let rect ← fields.optional "rect" Rect.ofJson?
  let hasLayoutBox ← fields.withDefault "hasLayoutBox" true
    flag?
  let viewport ← fields.withDefault "viewport" {}
    Viewport.ofJson?
  let disabled ← fields.withDefault "disabled" false flag?
  let form ← fields.withDefault "form" {} FormState.ofJson?
  let hasClickHandler ← fields.withDefault "hasClickHandler"
    false flag?
  let inRecorderOverlay ← fields.withDefault
    "inRecorderOverlay" false flag?
  let path ← fields.withDefault "path" []
    (listOf? PathNode.ofJson?)
  let hosts ← fields.withDefault "boundaries" []
    (listOf? (Host.ofJsonWith? readName))
  return {
    tagName, attributes, textContent, labelText,
    idMatchCount, style, rect, hasLayoutBox, viewport,
    disabled, form, hasClickHandler, inRecorderOverlay, path,
    hosts }

/- Read an element. -/
def ofJson? (value : Json) : Option Element :=
  ofJsonWith? Json.choice? value

end Element

------------------------------------------------------------
-- Writing
------------------------------------------------------------

/- Write a text or `null`. -/
def textOrNull (s : Option String) : Json :=
  Json.ofOption Json.string s

/- Write a list of texts. -/
def textList (items : List String) : Json :=
  Json.ofList Json.string items

/- Write a table of texts. -/
def Attributes.toJson (table : Attributes) : Json :=
  .object (table.entries.map fun (name, value) =>
    (name, Json.string value))

/- Write a style. -/
def Style.toJson (style : Style) : Json :=
  .object
    [("cursor", textOrNull style.cursor),
      ("display", textOrNull style.display),
      ("visibility", textOrNull style.visibility)]

/- Write what a form control held. -/
def FormState.toJson (form : FormState) : Json :=
  .object
    [("value", textOrNull form.value),
      ("checked", Json.ofOption Json.bool form.checked),
      ("multiple", .bool form.multiple),
      ("selectedValues", textList form.selectedValues),
      ("selectedText", textOrNull form.selectedText),
      ("fileNames", textList form.fileNames)]

/- Write one level of a path. -/
def PathNode.toJson (node : PathNode) : Json :=
  .object
    [("tagName", .string node.tagName),
      ("id", textOrNull node.id),
      ("classes", textList node.classes),
      ("sameTagCount", Json.ofNat node.sameTagCount),
      ("childIndex", Json.ofNat node.childIndex)]

/- Write a host. -/
def Host.toJson (host : Host) : Json :=
  .object
    [("kind", .string host.kind.wireName),
      ("tagName", .string host.tagName),
      ("id", textOrNull host.id),
      ("name", textOrNull host.name),
      ("src", textOrNull host.src),
      ("classes", textList host.classes),
      ("path", Json.ofList PathNode.toJson host.path)]

end Clickstream
