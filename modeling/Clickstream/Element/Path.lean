import Clickstream.Css.Identifier
import Clickstream.Element.Basic

/-
  Paths: style-sheet selectors that name an element by its
  place, one segment for each level of the page.

  Key definitions:
    * `ClassFilter`: which classes go into a segment
    * `PathNode.segment`
    * `Path.selector`
-/

namespace Clickstream

------------------------------------------------------------
-- Classes
------------------------------------------------------------

/-
  `stable` takes at most two classes and none that scripts
  and frameworks put there; `all` takes every class.
-/
inductive ClassFilter where
  | stable
  | all
deriving DecidableEq, Repr, Inhabited

namespace ClassFilter

/- Classes that scripts and frameworks put on elements. -/
def isVolatile (name : String) : Bool :=
  match name.toList with
  | 'j' :: 's' :: '-' :: _ => true
  | 'n' :: 'g' :: '-' :: _ => true
  | _ => false

/- The classes that a filter lets through. -/
def pick
    (filter : ClassFilter)
    (classes : List String) : List String :=
  match filter with
  | .stable =>
      (classes.filter (fun c => !isVolatile c)).take 2
  | .all => classes

end ClassFilter

------------------------------------------------------------
-- Segments
------------------------------------------------------------

namespace PathNode

/- The place among all siblings, where the tag is not enough. -/
def place (node : PathNode) : String :=
  if 1 < node.sameTagCount ∧ 0 < node.childIndex then
    ":nth-child(" ++ toString node.childIndex ++ ")"
  else
    ""

/- Tag, classes and place of one level. -/
def segment
    (filter : ClassFilter)
    (node : PathNode) : String :=
  node.tagName ++
    String.join
      ((filter.pick node.classes).map Css.classSelector) ++
    node.place

end PathNode

------------------------------------------------------------
-- Paths
------------------------------------------------------------

namespace Path

/-
  The segments of a path from the inside to the outside. An
  element with an id ends the path; one without a tag is left
  out.
-/
def segments
    (filter : ClassFilter) :
    List PathNode → List String
  | [] => []
  | node :: rest =>
      match node.id with
      | some id => [Css.idSelector id]
      | none =>
          if node.tagName = "" then segments filter rest
          else node.segment filter :: segments filter rest

/- The segments written from the outside to the inside. -/
def selector
    (filter : ClassFilter)
    (nodes : List PathNode) : String :=
  String.intercalate " > " (segments filter nodes).reverse

/- How many levels a path of limited length looks at. -/
def maxDepth : Nat := 5

/- The path through the lowest levels, stable classes only. -/
def stable (nodes : List PathNode) : String :=
  selector .stable (nodes.take maxDepth)

/- The path through every level with every class. -/
def full (nodes : List PathNode) : String :=
  selector .all nodes

end Path

end Clickstream
