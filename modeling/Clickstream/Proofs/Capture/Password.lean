import Clickstream.Capture.Interpret
import Clickstream.Capture.Sanitise

/-
  Password fields: what is known of an element once it is an
  input for passwords, and of the actions made of it.

  Key theorems:
    * `Element.isPassword_iff`
    * `Element.currentValue?_of_isPassword`
    * `Element.isPassword_action`
-/

namespace Clickstream

namespace Element

variable {e : Element}

theorem hasInputType_singleton_iff
    {type : String} :
    e.hasInputType [type] = true ↔
      e.inputType? = some type := by
  unfold hasInputType
  cases hType : e.inputType? with
  | none => simp
  | some other => simp

/- Inputs for passwords are the inputs of that very type. -/
theorem isPassword_iff :
    e.isPassword = true ↔
      e.inputType? = some "password" :=
  hasInputType_singleton_iff

/- So are inputs for files. -/
theorem isFileInput_iff :
    e.isFileInput = true ↔ e.inputType? = some "file" :=
  hasInputType_singleton_iff

/- Only inputs have a type. -/
theorem hasTag_input_of_inputType?
    {type : String}
    (hType : e.inputType? = some type) :
    e.tagName = "input" := by
  unfold inputType? at hType
  split at hType
  · rename_i hTag
    simpa [hasTag] using hTag
  · cases hType

/- An input is no list to choose from. -/
theorem isSelect_of_isPassword
    (hPassword : e.isPassword = true) :
    e.isSelect = false := by
  have hTag :=
    hasTag_input_of_inputType? (isPassword_iff.mp hPassword)
  unfold isSelect hasTag
  rw [hTag]
  rfl

/- What an input for passwords holds is its text. -/
theorem currentValue?_of_isPassword
    (hPassword : e.isPassword = true) :
    e.currentValue? = e.formText? := by
  unfold currentValue?
  rw [isSelect_of_isPassword hPassword,
    isPassword_iff.mp hPassword]
  rfl

/- An action is about a password just if its element is. -/
theorem isPassword_action
    (e : Element)
    (kind : Action.Kind)
    (timestamp : Nat) :
    (e.action kind timestamp).isPassword = e.isPassword := by
  have hType :
      (e.action kind timestamp).inputType = e.inputType? :=
    rfl
  unfold Action.isPassword
  rw [hType, Bool.eq_iff_iff, isPassword_iff,
    decide_eq_true_iff]

end Element

theorem Capture.kind_scrollDraft
    (target : Option Element)
    (timestamp : Nat) :
    (scrollDraft target timestamp).kind = .scroll := by
  cases target with
  | none => rfl
  | some e =>
      unfold scrollDraft
      dsimp only
      split <;> rfl

/- Scrolls have no value, whatever they scroll. -/
theorem Capture.value_scrollDraft
    (target : Option Element)
    (timestamp : Nat) :
    (scrollDraft target timestamp).value = none := by
  cases target with
  | none => rfl
  | some e =>
      unfold scrollDraft
      dsimp only
      split <;> rfl

end Clickstream
