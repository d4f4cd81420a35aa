import Clickstream.Selector.Record

/-
  Frames: the inner documents and shadow trees that lie
  between a page and one of its elements.

  Key definitions:
    * `Frame.Kind`
    * `Frame`
    * `FramePath`: the frames from the outside to the inside
    * `Frame.members`, `Frame.shape`
    * `Frame.toJson`, `Frame.ofJson?`
-/

namespace Clickstream

------------------------------------------------------------
-- Frames
------------------------------------------------------------

/- The two kinds of boundary inside a page. -/
inductive Frame.Kind where
  | iframe
  | shadow
deriving DecidableEq, Repr, Inhabited

/- A boundary and the selector of the element that hosts it. -/
structure Frame where
  kind : Frame.Kind
  selector : Selector
deriving DecidableEq, Repr, Inhabited

/-
  The boundaries on the way to an element, the outermost
  first. The top document has none.
-/
abbrev FramePath :=
  List Frame

namespace Frame

------------------------------------------------------------
-- Records
------------------------------------------------------------

/- The written name of a kind of boundary. -/
def Kind.wireName : Kind → String
  | .iframe => "iframe"
  | .shadow => "shadow"

/- The kind of boundary with a written name. -/
def Kind.ofWireName? (name : String) : Option Kind :=
  match name with
  | "iframe" | "Iframe" => some .iframe
  | "shadow" | "ShadowHost" | "shadowHost" => some .shadow
  | _ => none

/- Read a kind of boundary. -/
def Kind.ofJson? (value : Json) : Option Kind :=
  value.choice?.bind Kind.ofWireName?

/- The fields in order. -/
def members : List (Json.Member Json.Shape) :=
  [.needed "kind" (.ofChoice Kind.ofWireName?),
    .needed "selector" Selector.shape]

/- The shape of a written frame. -/
def shape : Json.Shape :=
  .record members

/- Write a frame. -/
def toJson (frame : Frame) : Json :=
  .object
    (Json.Fields.one "kind" (.string frame.kind.wireName) ++
      Json.Fields.one "selector" frame.selector.toJson)

/- Read a frame. -/
def ofJson? (value : Json) : Option Frame := do
  let fields ← Json.Member.record? members value
  let kind ← fields.required "kind" Kind.ofJson?
  let selector ← fields.required "selector" Selector.ofJson?
  return ⟨kind, selector⟩

end Frame

end Clickstream
