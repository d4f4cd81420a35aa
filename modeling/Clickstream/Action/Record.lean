import Clickstream.Action.Basic

/-
  Actions as JSON records. What is absent, empty or false is
  not written, except for the kind and the timestamp.

  Key definitions:
    * `Action.Value.toJson`, `Action.Value.ofJson?`
    * `Modifiers.toJson`, `Modifiers.ofJson?`
    * `Action.members`, `Action.shape`
    * `Action.toJson`, `Action.ofJson?`
-/

namespace Clickstream

------------------------------------------------------------
-- Values and Modifiers
------------------------------------------------------------

namespace Action.Value

/- Write a value. -/
def toJson : Value → Json
  | .text t => .string t
  | .list items => Json.ofList Json.string items
  | .flag b => .bool b

/- Read a value. -/
def ofJson? (value : Json) : Option Value :=
  match value with
  | .string t => some (.text t)
  | .bool b => some (.flag b)
  | .array items => (items.mapM Json.text?).map .list
  | _ => none

end Action.Value

namespace Modifiers

/- The fields in order. -/
def members : List (Json.Member Json.Shape) :=
  [.free "ctrl" .flag, .free "shift" .flag, .free "alt" .flag,
    .free "meta" .flag]

/- The shape of written modifiers. -/
def shape : Json.Shape :=
  .record members

/- Write modifiers, held or not. -/
def toJson (m : Modifiers) : Json :=
  .object
    [("ctrl", .bool m.ctrl), ("shift", .bool m.shift),
      ("alt", .bool m.alt), ("meta", .bool m.metaKey)]

/- Read modifiers; one that is not named was not held. -/
def ofJson? (value : Json) : Option Modifiers := do
  let fields ← Json.Member.record? members value
  let ctrl ← fields.withDefault "ctrl" false Json.flag?
  let shift ← fields.withDefault "shift" false Json.flag?
  let alt ← fields.withDefault "alt" false Json.flag?
  let metaKey ← fields.withDefault "meta" false Json.flag?
  return ⟨ctrl, shift, alt, metaKey⟩

end Modifiers

------------------------------------------------------------
-- Actions
------------------------------------------------------------

namespace Action

/- Read the kind of an action. -/
def Kind.ofJson? (value : Json) : Option Kind :=
  value.text?.map Kind.ofWireName

/- The shape of a field that may hold a text. -/
def textMember
    (name : String) : Json.Member Json.Shape :=
  .free name (.optional .text)

/- The shape of a field that may hold a truth value. -/
def flagMember
    (name : String) : Json.Member Json.Shape :=
  .free name (.optional .flag)

/- The shape of a field that may hold a distance. -/
def offsetMember
    (name : String) : Json.Member Json.Shape :=
  .free name (.optional (.ofScalar Json.offset?))

/- The fields in order. -/
def members : List (Json.Member Json.Shape) :=
  [.needed "type" .text,
    .free "selector" (.optional Selector.shape),
    .free "framePath" (.list Frame.shape),
    .free "value" (.optional (.ofWhole Value.ofJson?)),
    textMember "url", textMember "previousUrl",
    .free "timestamp" (.ofScalar Json.time?),
    flagMember "checked", textMember "inputType",
    flagMember "multiple", textMember "key",
    .free "modifiers" (.optional Modifiers.shape),
    offsetMember "scrollX", offsetMember "scrollY",
    textMember "tagName", textMember "text",
    textMember "elementId", .free "hasTooltip" .flag,
    .free "isImportant" .flag]

/- The shape of a written action. -/
def shape : Json.Shape :=
  .record members

/- Write the frames of an action, if there are any. -/
def framesField (frames : FramePath) : Json.Fields :=
  match frames with
  | [] => []
  | _ :: _ => [("framePath", Json.ofList Frame.toJson frames)]

open Json.Fields in
/- The fields of an action in order. -/
def toFields (a : Action) : Json.Fields :=
  one "type" (.string a.kind.wireName) ++
    ifSome "selector" Selector.toJson a.selector ++
    framesField a.frames ++
    ifSome "value" Value.toJson a.value ++
    ifSome "url" Json.string a.url ++
    ifSome "previousUrl" Json.string a.previousUrl ++
    one "timestamp" (Json.ofNat a.timestamp) ++
    ifSome "checked" Json.bool a.checked ++
    ifSome "inputType" Json.string a.inputType ++
    ifSome "multiple" Json.bool a.multiple ++
    ifSome "key" Json.string a.key ++
    ifSome "modifiers" Modifiers.toJson a.modifiers ++
    ifSome "scrollX" Json.ofInt a.scrollX ++
    ifSome "scrollY" Json.ofInt a.scrollY ++
    ifSome "tagName" Json.string a.tagName ++
    ifSome "text" Json.string a.text ++
    ifSome "elementId" Json.string a.elementId ++
    ifTrue "hasTooltip" a.hasTooltip ++
    ifTrue "isImportant" a.isImportant

/- Write an action. -/
def toJson (a : Action) : Json :=
  .object a.toFields

/- Read an action. -/
def ofJson? (value : Json) : Option Action := do
  let fields ← Json.Member.record? members value
  let kind ← fields.required "type" Kind.ofJson?
  let selector ← fields.optional "selector" Selector.ofJson?
  let frames ← fields.withDefault "framePath" []
    (Json.listOf? Frame.ofJson?)
  let value ← fields.optional "value" Value.ofJson?
  let url ← fields.optional "url" Json.text?
  let previousUrl ← fields.optional "previousUrl" Json.text?
  let timestamp ← fields.withDefault "timestamp" 0 Json.time?
  let checked ← fields.optional "checked" Json.flag?
  let inputType ← fields.optional "inputType" Json.text?
  let multiple ← fields.optional "multiple" Json.flag?
  let key ← fields.optional "key" Json.text?
  let modifiers ← fields.optional "modifiers"
    Modifiers.ofJson?
  let scrollX ← fields.optional "scrollX" Json.offset?
  let scrollY ← fields.optional "scrollY" Json.offset?
  let tagName ← fields.optional "tagName" Json.text?
  let text ← fields.optional "text" Json.text?
  let elementId ← fields.optional "elementId" Json.text?
  let hasTooltip ← fields.withDefault "hasTooltip" false
    Json.flag?
  let isImportant ← fields.withDefault "isImportant" false
    Json.flag?
  return {
    kind, selector, frames, value, url, previousUrl,
    timestamp, checked, inputType, multiple, key, modifiers,
    scrollX, scrollY, tagName, text, elementId, hasTooltip,
    isImportant }

end Action

end Clickstream
