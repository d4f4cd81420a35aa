import Clickstream.Script.Dialects

/-
  The vocabulary of calls in full, and every text that a
  dialect spells the same whatever was recorded. What has to
  be checked of each of them can be checked by listing.

  Key definitions:
    * `Method.all`, `PageObject.all`, `Accessor.all`,
      `Scope.all`
    * `Dialect.spellings`

  Key theorems:
    * `Call.exists_of?`
    * `Dialect.operation_of_call`
-/

namespace Clickstream

namespace Script

------------------------------------------------------------
-- Lists of the Vocabulary
------------------------------------------------------------

/- Every method. -/
def Method.all : List Method :=
  [.goto, .click, .doubleClick, .fill, .check, .uncheck,
    .selectOption, .setInputFiles, .hover, .focus, .blur,
    .waitFor, .press, .evaluate, .down, .up, .waitForTimeout]

@[simp] theorem Method.mem_all (method : Method) :
    method ∈ Method.all := by
  cases method <;> decide

/- Every object of the page. -/
def PageObject.all : List PageObject :=
  [.page, .keyboard, .mouse]

@[simp] theorem PageObject.mem_all (object : PageObject) :
    object ∈ PageObject.all := by
  cases object <;> decide

/- Every accessor. -/
def Accessor.all : List Accessor :=
  [.frameLocator, .locator, .testId, .label, .placeholder,
    .altText, .title]

@[simp] theorem Accessor.mem_all (accessor : Accessor) :
    accessor ∈ Accessor.all := by
  cases accessor <;> decide

/- Everything one can look in. -/
def Scope.all : List Scope :=
  [.page, .frameLocator, .locator]

@[simp] theorem Scope.mem_all (scope : Scope) :
    scope ∈ Scope.all := by
  cases scope <;> decide

------------------------------------------------------------
-- Spellings
------------------------------------------------------------

/-
  The fixed texts of a dialect. The header is not among them,
  since it depends on the name of the test.
-/
def Dialect.spellings (d : Dialect) : List String :=
  Method.all.map d.methodName ++
    PageObject.all.map d.objectName ++
    Accessor.all.map d.accessorName ++
    Scope.all.map d.roleNameOpen ++
    [MouseButton.left, .right].map d.buttonOption ++
    d.roleConstant.toList ++ d.footer ++
    d.stepClose.toList ++ d.filler.toList ++
    [d.roleAccessor, d.roleNameClose, d.listOpen,
      d.listClose, d.fileOpen, d.fileClose, d.filesOpen,
      d.filesClose, d.statementOpen, d.statementClose,
      d.commentOpen, d.indentUnit, d.stepOpen,
      d.stepOpenEnd]

------------------------------------------------------------
-- Calls of Operations
------------------------------------------------------------

/- Every operation but a note has a call. -/
theorem Call.exists_of?
    {operation : Operation}
    (hNote : operation.isNote = false) :
    ∃ call, Call.of? operation = some call := by
  cases operation with
  | note text => cases hNote
  | click target button =>
      cases button <;> exact ⟨_, rfl⟩
  | press target key =>
      cases target <;> exact ⟨_, rfl⟩
  | _ => exact ⟨_, rfl⟩

/- An operation with a call is written as a statement. -/
theorem Dialect.operation_of_call
    (d : Dialect)
    {operation : Operation}
    {call : Call}
    (hCall : Call.of? operation = some call) :
    d.operation operation =
      d.statement (d.expression call) := by
  unfold Dialect.operation
  cases operation with
  | note text => cases hCall
  | _ =>
      dsimp only
      rw [hCall]

end Script

end Clickstream
