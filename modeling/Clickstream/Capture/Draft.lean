import Clickstream.Text.Split
import Clickstream.Element.Locate

/-
  Drafts: the action that an element gives rise to, before it
  is known whether it is worth recording.

  Key definitions:
    * `Element.actionText?`
    * `Element.bareAction`: selector and tag only
    * `Element.action`: everything later readers may need
-/

namespace Clickstream

namespace Element

/- How much of its text an element leaves on an action. -/
def actionTextLength : Nat := 50

/-
  The words that go with an action: the chosen entry of a
  list, nothing for fields one types into, and else the start
  of the visible text.
-/
def actionText?
    (e : Element)
    (kind : Action.Kind) : Option String :=
  match kind, e.form.selectedText with
  | .select, some chosen => some chosen
  | _, _ =>
      if e.isTextEntry then none
      else e.trimmedText?.map (Text.firstChars actionTextLength)

/- An action that only says which element it was done to. -/
def bareAction
    (e : Element)
    (kind : Action.Kind)
    (timestamp : Nat) : Action :=
  { Action.on kind e.locate e.frames timestamp with
    tagName := if e.tagName = "" then none else some e.tagName }

/- An action with everything the element tells. -/
def action
    (e : Element)
    (kind : Action.Kind)
    (timestamp : Nat) : Action :=
  { e.bareAction kind timestamp with
    text := e.actionText? kind
    elementId := e.uniqueId?
    hasTooltip := e.hasTooltip
    isImportant := e.isImportant
    inputType := e.inputType?
    value := e.currentValue?
    checked := if e.isCheckable then e.form.checked else none
    multiple :=
      if e.isSelect then some e.form.multiple else none }

end Element

end Clickstream
