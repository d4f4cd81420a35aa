import Clickstream.Text.Blank
import Clickstream.Text.Ascii
import Clickstream.Text.Split
import Clickstream.Action.Basic
import Clickstream.Element.Basic

/-
  What can be told about an element from what was noted down:
  which control it is, whether it can be seen and used, and
  what it holds.

  Key definitions:
    * `Element.attr?`
    * `Element.inputType?`, `Element.isTextEntry`, …
    * `Element.isInteractive`, `Element.isHidden`,
      `Element.inViewport`
    * `Element.uniqueId?`
    * `Element.currentValue?`
-/

namespace Clickstream

namespace Element

------------------------------------------------------------
-- Attributes and Tags
------------------------------------------------------------

/- The value of an attribute that is not blank. -/
def attr?
    (e : Element)
    (name : String) : Option String :=
  (e.attributes.get? name).filter
    (fun v => !Text.isBlankText v)

/- Whether an attribute is there, blank or not. -/
def hasAttr
    (e : Element)
    (name : String) : Bool :=
  e.attributes.has name

/- Whether the element has one of these tags. -/
def hasTag
    (e : Element)
    (tags : List String) : Bool :=
  tags.contains e.tagName

------------------------------------------------------------
-- Controls
------------------------------------------------------------

/- The type of an input in small letters, `text` by default. -/
def inputType? (e : Element) : Option String :=
  if e.hasTag ["input"] then
    some (((e.attr? "type").map Text.lower).getD "text")
  else
    none

/- Whether the element is an input of one of these types. -/
def hasInputType
    (e : Element)
    (types : List String) : Bool :=
  match e.inputType? with
  | some t => types.contains t
  | none => false

/- Check boxes and radio buttons. -/
def isCheckable (e : Element) : Bool :=
  e.hasInputType ["checkbox", "radio"]

/- Inputs for files. -/
def isFileInput (e : Element) : Bool :=
  e.hasInputType ["file"]

/- Inputs for passwords. -/
def isPassword (e : Element) : Bool :=
  e.hasInputType ["password"]

/- Lists to choose from. -/
def isSelect (e : Element) : Bool :=
  e.hasTag ["select"]

/- The types of input that take no typed text. -/
def untypedInputs : List String :=
  ["checkbox", "radio", "file", "submit", "button", "reset",
    "image", "range", "color", "hidden"]

/- Text areas and the inputs one types into. -/
def isTextEntry (e : Element) : Bool :=
  e.hasTag ["textarea"] ||
    (match e.inputType? with
    | some t => !untypedInputs.contains t
    | none => false)

/- The elements that hold a value of a form. -/
def isFormField (e : Element) : Bool :=
  e.hasTag ["input", "textarea", "select"]

/- Buttons and inputs that send a form. -/
def isSubmitControl (e : Element) : Bool :=
  e.hasTag ["button", "input"] &&
    (e.attr? "type").map Text.lower = some "submit"

/- The root of a document, or no element at all. -/
def isDocumentRoot (e : Element) : Bool :=
  e.hasTag ["body", "html", ""]

------------------------------------------------------------
-- Meaning and Appearance
------------------------------------------------------------

/- The role the page gives the element. -/
def role? (e : Element) : Option String :=
  e.attr? "role"

/- The visible text without blanks around it. -/
def trimmedText? (e : Element) : Option String :=
  e.textContent.bind Text.nonBlank

/- Whether the mouse pointer turns into a hand. -/
def hasPointerCursor (e : Element) : Bool :=
  e.style.cursor = some "pointer"

/- Whether a click on the element can be expected to act. -/
def isInteractive (e : Element) : Bool :=
  e.hasTag ["a", "button", "input", "select", "textarea"] ||
    e.role?.isSome || e.hasAttr "tabindex" ||
    e.hasPointerCursor || e.hasClickHandler

/- Whether the element cannot be seen on the page. -/
def isHidden (e : Element) : Bool :=
  !e.hasLayoutBox || e.style.visibility = some "hidden" ||
    e.style.display = some "none"

/- Whether the element is switched off. -/
def isDisabled (e : Element) : Bool :=
  e.disabled || e.attr? "aria-disabled" = some "true"

/-
  Whether a part of the element lies inside the window. An
  element of unknown position does.
-/
def inViewport (e : Element) : Bool :=
  match e.rect with
  | none => true
  | some r =>
      r.bottom > 0 && r.right > 0 &&
        r.top < e.viewport.height && r.left < e.viewport.width

/- Whether the element explains itself when hovered. -/
def hasTooltip (e : Element) : Bool :=
  (e.attr? "title").isSome || (e.attr? "aria-label").isSome

/- Buttons, links and controls that send a form. -/
def isImportant (e : Element) : Bool :=
  e.hasTag ["button", "a"] || e.isSubmitControl ||
    e.role? = some "button"

/- The id of an element that no other one shares. -/
def uniqueId? (e : Element) : Option String :=
  if e.idMatchCount = 1 then e.attr? "id" else none

------------------------------------------------------------
-- Values
------------------------------------------------------------

/- The value of the form control as a text. -/
def formText? (e : Element) : Option Action.Value :=
  e.form.value.map .text

/- The files of a file input, or else its value. -/
def fileText? (e : Element) : Option Action.Value :=
  if e.form.fileNames.isEmpty then e.formText?
  else some (.text (Text.joinList e.form.fileNames))

/- The value of a list to choose from. -/
def choice? (e : Element) : Option Action.Value :=
  if e.form.multiple then some (.list e.form.selectedValues)
  else e.formText?

/-
  What the element holds, in the form that fits its kind. A
  radio button holds its value only while it is on.
-/
def currentValue? (e : Element) : Option Action.Value :=
  if e.isSelect then e.choice?
  else
    match e.inputType? with
    | some "checkbox" => e.form.checked.map .flag
    | some "radio" =>
        if e.form.checked = some true then e.formText? else none
    | some "file" => e.fileText?
    | some _ => e.formText?
    | none => if e.hasTag ["textarea"] then e.formText? else none

end Element

end Clickstream
