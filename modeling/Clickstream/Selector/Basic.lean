import Clickstream.Css.Identifier

/-
  Selectors: how to find one element of a page again. A
  selector names a strategy and what the strategy looks for;
  some strategies take a second text as well.

  Key definitions:
    * `Selector.Kind`, `Selector.Kind.rank`
    * `Selector`
    * `Selector.testId`, …, `Selector.cssPath`
    * `Selector.toCss`: an equivalent style-sheet selector
    * `Selector.describe`: wording for titles and remarks
    * `Selector.isDefaultTestId`
-/

namespace Clickstream

------------------------------------------------------------
-- Strategies
------------------------------------------------------------

/- The strategies, the most trusted one first. -/
inductive Selector.Kind where
  | testId
  | role
  | label
  | placeholder
  | altText
  | title
  | uniqueId
  | name
  | classAttribute
  | cssPath
deriving DecidableEq, Repr, Inhabited

namespace Selector.Kind

/- All strategies in order of trust. -/
def all : List Kind :=
  [.testId, .role, .label, .placeholder, .altText, .title,
    .uniqueId, .name, .classAttribute, .cssPath]

/- The place of a strategy in the order of trust. -/
def rank : Kind → Nat
  | .testId => 0
  | .role => 1
  | .label => 2
  | .placeholder => 3
  | .altText => 4
  | .title => 5
  | .uniqueId => 6
  | .name => 7
  | .classAttribute => 8
  | .cssPath => 9

end Selector.Kind

/-
  A strategy with what it looks for. `value` is the test id,
  the role, the visible text, the attribute value, or a whole
  style-sheet selector for ids, classes and paths. `aux` is
  the accessible name of a role and the attribute a test id
  was read from.
-/
structure Selector where
  kind : Selector.Kind
  value : String
  aux : Option String := none
deriving DecidableEq, Repr, Inhabited

namespace Selector

------------------------------------------------------------
-- Construction
------------------------------------------------------------

/- A test id and the attribute it stands in. -/
def testId
    (value : String)
    (attributeName : String) : Selector :=
  ⟨.testId, value, some attributeName⟩

/- A role, with the accessible name if one is known. -/
def role
    (role : String)
    (name : Option String) : Selector :=
  ⟨.role, role, name⟩

/- The text of the label of a form field. -/
def label (text : String) : Selector :=
  ⟨.label, text, none⟩

/- The placeholder of a form field. -/
def placeholder (text : String) : Selector :=
  ⟨.placeholder, text, none⟩

/- The alternative text of an image. -/
def altText (text : String) : Selector :=
  ⟨.altText, text, none⟩

/- The title of an element. -/
def title (text : String) : Selector :=
  ⟨.title, text, none⟩

/- An id that no other element of the document has. -/
def uniqueId (id : String) : Selector :=
  ⟨.uniqueId, Css.idSelector id, none⟩

/- The name of a form field. -/
def name (name : String) : Selector :=
  ⟨.name, name, none⟩

/- The whole class attribute, letter by letter. -/
def classAttribute (value : String) : Selector :=
  ⟨.classAttribute, Css.attributeSelector "class" value, none⟩

/- A style-sheet selector as it is. -/
def cssPath (path : String) : Selector :=
  ⟨.cssPath, path, none⟩

------------------------------------------------------------
-- Style Sheets
------------------------------------------------------------

/- The attribute that holds a test id where none is named. -/
def defaultTestIdAttribute : String :=
  "data-testid"

/-
  Whether this is a test id in the attribute that test
  frameworks look at by themselves.
-/
def isDefaultTestId (s : Selector) : Bool :=
  s.kind = .testId &&
    (s.aux = none || s.aux = some defaultTestIdAttribute)

/- An equivalent style-sheet selector. -/
def toCss (s : Selector) : String :=
  match s.kind with
  | .uniqueId | .classAttribute | .cssPath => s.value
  | .testId =>
      Css.attributeSelector
        (s.aux.getD defaultTestIdAttribute) s.value
  | .role =>
      match s.aux with
      | some name =>
          Css.attributeSelector "role" s.value ++
            Css.attributeSelector "aria-label" name
      | none => Css.attributeSelector "role" s.value
  | .label => Css.attributeSelector "aria-label" s.value
  | .placeholder => Css.attributeSelector "placeholder" s.value
  | .altText => Css.attributeSelector "alt" s.value
  | .title => Css.attributeSelector "title" s.value
  | .name => Css.attributeSelector "name" s.value

------------------------------------------------------------
-- Wording
------------------------------------------------------------

/- A text between double quotes, as it is. -/
def inQuotes (s : String) : String :=
  "\"" ++ s ++ "\""

/- The selector in the words of titles and remarks. -/
def describe (s : Selector) : String :=
  match s.kind with
  | .testId => "test id " ++ inQuotes s.value
  | .role =>
      match s.aux with
      | some name => s.value ++ " " ++ inQuotes name
      | none => s.value
  | .label => "label " ++ inQuotes s.value
  | .placeholder => "placeholder " ++ inQuotes s.value
  | .altText => "image " ++ inQuotes s.value
  | .title => "title " ++ inQuotes s.value
  | .name => Css.attributeSelector "name" s.value
  | .uniqueId | .classAttribute | .cssPath => s.value

end Selector

end Clickstream
