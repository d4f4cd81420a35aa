import Clickstream.Event.Basic
import Clickstream.Element.Record

/-
  Events as JSON records. The kind of an event stands under
  `type`, or first where the record is an array.

  Key definitions:
    * `Event.Kind`, `Event.Kind.wireName`
    * `Event.kind`
    * `Event.ofJson?`: one event
    * `Event.batchOfJson?`: several events, or one
-/

namespace Clickstream

open Json (text? flag? byte? count? time? offset?)

------------------------------------------------------------
-- Kinds
------------------------------------------------------------

/- The kinds of events. -/
inductive Event.Kind where
  | click
  | gesture (gesture : Gesture)
  | keyDown
  | scroll
  | mutation
  | unload
deriving DecidableEq, Repr, Inhabited

namespace Event.Kind

/- All kinds in the order of their numbers, from zero. -/
def all : List Kind :=
  [.click, .gesture .contextMenu, .gesture .input,
    .gesture .change, .gesture .focus, .gesture .blur,
    .gesture .mouseOver, .keyDown, .scroll, .gesture .submit,
    .gesture .dragStart, .gesture .drop, .mutation, .unload]

/- The written name of a kind. -/
def wireName : Kind → String
  | .click => "click"
  | .gesture .contextMenu => "contextmenu"
  | .gesture .input => "input"
  | .gesture .change => "change"
  | .gesture .focus => "focus"
  | .gesture .blur => "blur"
  | .gesture .mouseOver => "mouseover"
  | .keyDown => "keydown"
  | .scroll => "scroll"
  | .gesture .submit => "submit"
  | .gesture .dragStart => "dragstart"
  | .gesture .drop => "drop"
  | .mutation => "mutation"
  | .unload => "unload"

/- The kind with a written name. -/
def ofWireName? (name : String) : Option Kind :=
  if name = "mouseenter" then some (.gesture .mouseOver)
  else all.find? (fun kind => kind.wireName = name)

/- Read a kind by its name. -/
def ofJson? (value : Json) : Option Kind :=
  value.text?.bind ofWireName?

/- Read a kind by its name or by its number. -/
def ofNameOrNumber? (value : Json) : Option Kind :=
  match value.time? with
  | some n => all[n]?
  | none => ofJson? value

/- The names of the fields that come with a kind, in order. -/
def fieldNames : Kind → List String
  | .click => ["target", "detail", "button", "timestamp"]
  | .gesture _ => ["target", "timestamp"]
  | .keyDown =>
      ["target", "key", "ctrl", "meta", "shift", "alt",
        "timestamp"]
  | .scroll => ["target", "scrollX", "scrollY", "timestamp"]
  | .mutation => ["href", "timestamp"]
  | .unload => ["url", "timestamp"]

end Event.Kind

/- The kind of an event. -/
def Event.kind (event : Event) : Event.Kind :=
  match event.occurrence with
  | .gesture g _ => .gesture g
  | .click _ _ _ => .click
  | .keyDown _ _ _ => .keyDown
  | .scroll _ _ _ => .scroll
  | .mutation _ => .mutation
  | .unload _ => .unload

------------------------------------------------------------
-- Occurrences
------------------------------------------------------------

namespace Occurrence

/- Read the element that an event is about. -/
def elementOfJson? (value : Json) : Option Element :=
  Element.ofJsonWith? Json.looseChoice? value

/- Read what happened, knowing the kind. -/
def ofFields?
    (kind : Event.Kind)
    (fields : Json.Fields) : Option Occurrence :=
  let target := fields.required "target" elementOfJson?
  let held (key : String) := fields.withDefault key false flag?
  match kind with
  | .gesture g => do
      return .gesture g (← target)
  | .click => do
      let target ← target
      let clicks ← fields.withDefault "detail" 0 count?
      let button ← fields.withDefault "button" 0 byte?
      return .click target clicks button
  | .keyDown => do
      let target ← target
      let key ← fields.required "key" text?
      let ctrl ← held "ctrl"
      let metaKey ← held "meta"
      let shift ← held "shift"
      let alt ← held "alt"
      return .keyDown target key { ctrl, shift, alt, metaKey }
  | .scroll => do
      let target ← fields.optional "target" elementOfJson?
      let x ← fields.withDefault "scrollX" 0 offset?
      let y ← fields.withDefault "scrollY" 0 offset?
      return .scroll target x y
  | .mutation => do
      return .mutation (← fields.required "href" text?)
  | .unload => do
      return .unload (← fields.required "url" text?)

end Occurrence

------------------------------------------------------------
-- Events
------------------------------------------------------------

namespace Event

/- Read an event, knowing its kind. -/
def ofRecord?
    (kind : Kind)
    (value : Json) : Option Event := do
  let fields ← value.record? kind.fieldNames 0
  let occurrence ← Occurrence.ofFields? kind fields
  let timestamp ← fields.required "timestamp" time?
  return { occurrence, timestamp }

/-
  Read an event whose kind is read by `readKind`: an object
  with exactly one `type`, or an array that starts with it.
-/
def ofJsonWith?
    (readKind : Json → Option Kind)
    (value : Json) : Option Event :=
  match value with
  | .object fields =>
      if Json.Fields.occurrences fields "type" ≤ 1 then do
        let kind ← Json.Fields.required fields "type" readKind
        ofRecord? kind (.object fields)
      else
        none
  | .array (first :: rest) => do
      let kind ← readKind first
      ofRecord? kind (.array rest)
  | _ => none

/- Read an event. -/
def ofJson? (value : Json) : Option Event :=
  ofJsonWith? Kind.ofJson? value

/-
  Read a batch: an array of events, or one event. In a batch
  a kind may also be given by its number.
-/
def batchOfJson? (value : Json) : Option (List Event) :=
  let event? := ofJsonWith? Kind.ofNameOrNumber?
  match value.listOf? event? with
  | some events => some events
  | none => (event? value).map ([·])

end Event

end Clickstream
