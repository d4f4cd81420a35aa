import Clickstream.Frame
import Clickstream.Element.Attributes

/-
  Elements: what was noted down about one element of a page
  at the moment something happened to it, enough to find it
  again and to judge the event without the page.

  Key definitions:
    * `Style`, `Rect`, `Viewport`, `FormState`
    * `PathNode`: one level of the way up the page
    * `Host`: the element that holds an inner document or a
      shadow tree
    * `Element`
-/

namespace Clickstream

------------------------------------------------------------
-- Parts
------------------------------------------------------------

/- What the page's style says of an element. -/
structure Style where
  cursor : Option String := none
  display : Option String := none
  visibility : Option String := none
deriving DecidableEq, Repr, Inhabited

/- Where an element lies in the window. -/
structure Rect where
  top : Float := 0
  left : Float := 0
  bottom : Float := 0
  right : Float := 0
deriving Repr, Inhabited

/- The size of the window. -/
structure Viewport where
  width : Float := 1280
  height : Float := 720
deriving Repr, Inhabited

/- What a form control held. -/
structure FormState where
  value : Option String := none
  checked : Option Bool := none
  multiple : Bool := false
  selectedValues : List String := []
  selectedText : Option String := none
  fileNames : List String := []
deriving DecidableEq, Repr, Inhabited

/-
  One level of the way up the page. `sameTagCount` counts the
  siblings with this tag, the element itself included;
  `childIndex` is the place among all siblings, from one.
-/
structure PathNode where
  tagName : String := ""
  id : Option String := none
  classes : List String := []
  sameTagCount : Nat := 0
  childIndex : Nat := 0
deriving DecidableEq, Repr, Inhabited

/-
  An element that holds an inner document or a shadow tree,
  with its own way up the document it stands in.
-/
structure Host where
  kind : Frame.Kind := .iframe
  tagName : String := "iframe"
  id : Option String := none
  name : Option String := none
  src : Option String := none
  classes : List String := []
  path : List PathNode := []
deriving DecidableEq, Repr, Inhabited

------------------------------------------------------------
-- Elements
------------------------------------------------------------

/-
  One element. `path` starts with the element itself and goes
  up; `hosts` start with the outermost one. `idMatchCount`
  tells how many elements of the document have this id.
-/
structure Element where
  tagName : String := ""
  attributes : Attributes := Attributes.empty
  textContent : Option String := none
  labelText : Option String := none
  idMatchCount : Nat := 0
  style : Style := {}
  rect : Option Rect := none
  hasLayoutBox : Bool := true
  viewport : Viewport := {}
  disabled : Bool := false
  form : FormState := {}
  hasClickHandler : Bool := false
  inRecorderOverlay : Bool := false
  path : List PathNode := []
  hosts : List Host := []
deriving Repr, Inhabited

end Clickstream
