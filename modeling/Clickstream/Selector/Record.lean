import Clickstream.Json.Shape
import Clickstream.Selector.Basic

/-
  Selectors as JSON records.

  Key definitions:
    * `Selector.Kind.wireName`, `Selector.Kind.ofWireName?`
    * `Selector.members`, `Selector.shape`
    * `Selector.toJson`, `Selector.ofJson?`
-/

namespace Clickstream

namespace Selector

------------------------------------------------------------
-- Strategies
------------------------------------------------------------

/- The written name of a strategy. -/
def Kind.wireName : Kind → String
  | .testId => "TestId"
  | .role => "Role"
  | .label => "Label"
  | .placeholder => "Placeholder"
  | .altText => "AltText"
  | .title => "Title"
  | .uniqueId => "UniqueId"
  | .name => "Name"
  | .classAttribute => "ClassAttr"
  | .cssPath => "CssPath"

/- The strategy with a written name. -/
def Kind.ofWireName? (name : String) : Option Kind :=
  Kind.all.find? (fun kind => kind.wireName = name)

/- Read a strategy. -/
def Kind.ofJson? (value : Json) : Option Kind :=
  value.choice?.bind Kind.ofWireName?

------------------------------------------------------------
-- Selectors
------------------------------------------------------------

/- The fields in order. -/
def members : List (Json.Member Json.Shape) :=
  [.needed "kind" (.ofChoice Kind.ofWireName?),
    .needed "value" .text,
    .free "auxName" (.optional .text)]

/- The shape of a written selector. -/
def shape : Json.Shape :=
  .record members

/- Write a selector. -/
def toJson (s : Selector) : Json :=
  .object
    (Json.Fields.one "kind" (.string s.kind.wireName) ++
      Json.Fields.one "value" (.string s.value) ++
      Json.Fields.ifSome "auxName" Json.string s.aux)

/- Read a selector. -/
def ofJson? (value : Json) : Option Selector := do
  let fields ← Json.Member.record? members value
  let kind ← fields.required "kind" Kind.ofJson?
  let text ← fields.required "value" Json.text?
  let aux ← fields.optional "auxName" Json.text?
  return ⟨kind, text, aux⟩

end Selector

end Clickstream
