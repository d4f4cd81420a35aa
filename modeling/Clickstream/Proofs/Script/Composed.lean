import Clickstream.Proofs.Script.Vocabulary
import Clickstream.Proofs.Text.Alphanumeric
import Clickstream.Proofs.Text.UnicodeEscape

/-
  What statements are made of: the spellings of a dialect,
  which are plain, and literals, which are not but stay on
  their line and complete their escapes. Nothing else that
  was recorded gets into a statement.

  Key definitions:
    * `Dialect.IsPlain`: all spellings are plain
    * `Dialect.Composed`: plain texts and literals in a row

  Key theorems:
    * `Dialect.composed_operation`
    * `Dialect.Composed.avoids_isBreak`,
      `Dialect.Composed.settled`
    * `Language.dialect_isPlain`
-/

namespace Clickstream

namespace Script

open Text

------------------------------------------------------------
-- Plain Spellings
------------------------------------------------------------

/-
  The literals of a dialect stand between quotation marks, and
  none of its spellings has a break or a backslash.
-/
structure Dialect.IsPlain (d : Dialect) : Prop where
  mark : Quoted.IsMark d.mark
  methodName : ∀ method, Plain (d.methodName method)
  objectName : ∀ object, Plain (d.objectName object)
  accessorName : ∀ accessor, Plain (d.accessorName accessor)
  roleAccessor : Plain d.roleAccessor
  roleConstant : ∀ opening ∈ d.roleConstant, Plain opening
  roleNameOpen : ∀ scope, Plain (d.roleNameOpen scope)
  roleNameClose : Plain d.roleNameClose
  listOpen : Plain d.listOpen
  listClose : Plain d.listClose
  fileOpen : Plain d.fileOpen
  fileClose : Plain d.fileClose
  filesOpen : Plain d.filesOpen
  filesClose : Plain d.filesClose
  buttonOption : ∀ button, Plain (d.buttonOption button)
  statementOpen : Plain d.statementOpen
  statementClose : Plain d.statementClose
  commentOpen : Plain d.commentOpen
  indentUnit : Plain d.indentUnit
  footer : ∀ line ∈ d.footer, Plain line
  stepOpen : Plain d.stepOpen
  stepOpenEnd : Plain d.stepOpenEnd
  stepClose : ∀ line ∈ d.stepClose, Plain line
  filler : ∀ line ∈ d.filler, Plain line

/- The names of known roles are made of small letters. -/
theorem isLower_of_mem_knownRoles :
    ∀ role ∈ knownRoles, ∀ c ∈ role.toList,
      isLower c = true := by
  have hRoles :
      ∀ role ∈ knownRoles,
        role.toList.all isLower = true := by
    decide +kernel
  intro role hRole
  exact List.all_eq_true.mp (hRoles role hRole)

/- Known roles are made of letters in capitals too. -/
theorem isAlphanumeric_of_mem_upper
    {role : String}
    (hRole : role ∈ knownRoles) :
    ∀ c ∈ (Text.upper role).toList,
      isAlphanumeric c = true := by
  intro c hc
  rw [Text.upper, String.toList_ofList] at hc
  rcases List.mem_map.mp hc with ⟨e, he, rfl⟩
  exact isAlphanumeric_toUpper
    (isAlphanumeric_of_isLower
      (isLower_of_mem_knownRoles role hRole e he))

theorem plain_upper_of_mem_knownRoles
    {role : String}
    (hRole : role ∈ knownRoles) :
    Plain (Text.upper role) := by
  rw [← String.ofList_toList (s := Text.upper role)]
  exact plain_of_isAlphanumeric
    (isAlphanumeric_of_mem_upper hRole)

/- Code that a call hands to the browser is plain. -/
def Argument.IsPlainCode : Argument → Prop
  | .code source => Plain source
  | _ => True

theorem plain_opening : Plain "(" := by
  decide

theorem plain_closing : Plain ")" := by
  decide

theorem plain_comma : Plain ", " := by
  decide

/- A plain name between a dot and arguments is plain. -/
theorem plain_link
    {name : String}
    (hName : Plain name) :
    Plain ("." ++ name ++ "(") := by
  have hDot : Plain "." := by decide
  exact (hDot.append hName).append plain_opening

/- Coordinates are plain. -/
theorem Call.plain_coordinates (x y : Int) :
    Plain (Call.coordinates x y) := by
  have hFirst : Plain ("(" ++ toString x ++ ", ") :=
    (plain_opening.append (plain_toString x)).append
      plain_comma
  exact (hFirst.append (plain_toString y)).append
    plain_closing

/-
  The code of every call is plain. Only scrolls and sent
  forms run code.
-/
theorem Call.isPlainCode_of_mem_arguments
    {operation : Operation}
    {call : Call}
    (hCall : Call.of? operation = some call)
    {argument : Argument}
    (hArgument : argument ∈ call.arguments) :
    argument.IsPlainCode := by
  cases operation
  case scrollElement target x y =>
    simp only [Call.of?, Option.some.injEq] at hCall
    subst hCall
    simp only [Call.on, List.mem_singleton] at hArgument
    subst hArgument
    have hOpen : Plain "(el) => el.scrollTo" := by decide
    exact hOpen.append (Call.plain_coordinates x y)
  case scrollWindow frames x y =>
    have hOpen : Plain "() => window.scrollTo" := by decide
    have hCode :=
      hOpen.append (Call.plain_coordinates x y)
    simp only [Call.of?, Call.scrollWindow,
      Option.some.injEq] at hCall
    subst hCall
    split at hArgument <;>
      simp only [Call.on, Call.page,
        List.mem_singleton] at hArgument <;>
      subst hArgument <;>
      exact hCode
  case requestSubmit target =>
    simp only [Call.of?, Option.some.injEq] at hCall
    subst hCall
    simp only [Call.on, List.mem_singleton] at hArgument
    subst hArgument
    have hCode :
        Plain "(form) => form.requestSubmit()" := by decide
    exact hCode
  case selectOption target values multiple =>
    simp only [Call.of?, Option.some.injEq] at hCall
    subst hCall
    simp only [Call.on, Call.choices,
      List.mem_singleton] at hArgument
    subst hArgument
    cases multiple <;> trivial
  case click target button =>
    cases button <;>
      simp only [Call.of?, Option.some.injEq] at hCall <;>
      subst hCall <;>
      simp_all [Call.on, Argument.IsPlainCode]
  case press target key =>
    cases target <;>
      simp only [Call.of?, Option.some.injEq] at hCall <;>
      subst hCall <;>
      simp_all [Call.on, Call.page, Argument.IsPlainCode]
  all_goals
    simp only [Call.of?, Option.some.injEq,
      reduceCtorEq] at hCall
  all_goals
    subst hCall
    simp_all [Call.on, Call.page, Argument.IsPlainCode]

------------------------------------------------------------
-- Composed Texts
------------------------------------------------------------

namespace Dialect

/- Plain texts and literals of a dialect, put in a row. -/
inductive Composed (d : Dialect) : String → Prop where
  | plain {s : String} (hPlain : Plain s) : Composed d s
  | quote (s : String) : Composed d (d.quote s)
  | append {s t : String}
      (hs : Composed d s) (ht : Composed d t) :
      Composed d (s ++ t)

variable {d : Dialect}

/- A composed text stays on its line. -/
theorem Composed.avoids_isBreak
    {s : String}
    (hMark : Quoted.IsMark d.mark)
    (hComposed : d.Composed s) :
    Avoids isBreak s := by
  induction hComposed with
  | plain hPlain => exact hPlain.avoids_isBreak
  | quote s => exact Quoted.avoids_isBreak_write hMark s
  | append _ _ ihLeft ihRight =>
      exact ihLeft.append ihRight

/- A composed text starts no Unicode escape. -/
theorem Composed.settled
    {s : String}
    (hMark : Quoted.IsMark d.mark)
    (hComposed : d.Composed s) :
    Settled s := by
  induction hComposed with
  | plain hPlain => exact settled_of_plain hPlain
  | quote s => exact settled_write hMark s
  | append _ _ ihLeft ihRight =>
      exact ihLeft.append ihRight

/- Composed texts with commas between them. -/
theorem Composed.commas
    {items : List String}
    (hItems : ∀ item ∈ items, d.Composed item) :
    d.Composed (commas items) := by
  unfold Dialect.commas
  induction items with
  | nil =>
      rw [String.intercalate_nil]
      exact .plain avoids_empty
  | cons item items ih =>
      have hItem := hItems item (by simp)
      have hRest := ih (fun s hs => hItems s (by simp [hs]))
      by_cases hEmpty : items = []
      · subst hEmpty
        rw [String.intercalate_singleton]
        exact hItem
      · rw [String.intercalate_cons_of_ne_nil hEmpty]
        exact (hItem.append (.plain plain_comma)).append hRest

/- Composed texts one after the other. -/
theorem Composed.join
    {items : List String}
    (hItems : ∀ item ∈ items, d.Composed item) :
    d.Composed (String.join items) := by
  induction items with
  | nil =>
      rw [String.join_nil]
      exact .plain avoids_empty
  | cons item items ih =>
      rw [String.join_cons]
      exact (hItems item (by simp)).append
        (ih fun s hs => hItems s (by simp [hs]))

------------------------------------------------------------
-- Arguments
------------------------------------------------------------

theorem composed_list
    (hPlain : d.IsPlain)
    (items : List String) :
    d.Composed (d.list items) := by
  have hItems : d.Composed (Dialect.commas (items.map d.quote)) := by
    apply Composed.commas
    intro item hItem
    rcases List.mem_map.mp hItem with ⟨s, _, rfl⟩
    exact .quote s
  exact ((Composed.plain hPlain.listOpen).append
    hItems).append (.plain hPlain.listClose)

theorem composed_file
    (hPlain : d.IsPlain)
    (name : String) :
    d.Composed (d.file name) :=
  ((Composed.plain hPlain.fileOpen).append
    (.quote name)).append (.plain hPlain.fileClose)

theorem composed_files
    (hPlain : d.IsPlain)
    (names : List String) :
    d.Composed (d.files names) := by
  have hNames :
      d.Composed (Dialect.commas (names.map d.file)) := by
    apply Composed.commas
    intro item hItem
    rcases List.mem_map.mp hItem with ⟨name, _, rfl⟩
    exact composed_file hPlain name
  unfold files
  split
  · exact composed_file hPlain _
  · exact ((Composed.plain hPlain.filesOpen).append
      hNames).append (.plain hPlain.filesClose)

/- Code as a literal, or as it is. -/
theorem composed_code
    {source : String}
    (hSource : Plain source) :
    d.Composed (d.code source) := by
  unfold code
  split
  · exact .quote source
  · exact .plain hSource

theorem composed_argument
    (hPlain : d.IsPlain)
    {argument : Argument}
    (hCode : argument.IsPlainCode) :
    d.Composed (d.argument argument) := by
  cases argument with
  | text s => exact .quote s
  | texts items => exact composed_list hPlain items
  | number n => exact .plain (plain_toString n)
  | code source => exact composed_code hCode
  | files names => exact composed_files hPlain names
  | button button =>
      exact .plain (hPlain.buttonOption button)

------------------------------------------------------------
-- Locators
------------------------------------------------------------

theorem composed_access
    (hPlain : d.IsPlain)
    (accessor : Accessor)
    (s : String) :
    d.Composed (d.access accessor s) := by
  have hLink := plain_link (hPlain.accessorName accessor)
  exact ((Composed.plain hLink).append (.quote s)).append
    (.plain plain_closing)

/- A known role, as a constant or as a literal. -/
theorem composed_roleWord
    (hPlain : d.IsPlain)
    {role : String}
    (hRole : role ∈ knownRoles) :
    d.Composed (d.roleWord role) := by
  unfold roleWord
  cases hConstant : d.roleConstant with
  | none => exact .quote role
  | some opening =>
      have hOpening :=
        hPlain.roleConstant opening (by simp [hConstant])
      exact .plain
        (hOpening.append (plain_upper_of_mem_knownRoles hRole))

theorem composed_role
    (hPlain : d.IsPlain)
    {role : String}
    (hRole : role ∈ knownRoles)
    (name : Option String)
    (scope : Scope) :
    d.Composed (d.role role name scope) := by
  have hLink := plain_link hPlain.roleAccessor
  refine Composed.append (Composed.append
    (Composed.append (.plain hLink)
      (composed_roleWord hPlain hRole)) ?_)
    (.plain plain_closing)
  cases name with
  | none => exact .plain avoids_empty
  | some name =>
      exact ((Composed.plain (hPlain.roleNameOpen scope)).append
        (.quote name)).append (.plain hPlain.roleNameClose)

theorem composed_element
    (hPlain : d.IsPlain)
    (selector : Selector)
    (scope : Scope) :
    d.Composed (d.element selector scope) := by
  have hCss :=
    composed_access hPlain .locator selector.toCss
  unfold element
  cases selector.kind with
  | testId =>
      dsimp only
      split
      · exact composed_access hPlain .testId _
      · exact hCss
  | role =>
      dsimp only
      split
      · rename_i hKnown
        exact composed_role hPlain
          (List.contains_iff_mem.mp hKnown) _ _
      · exact hCss
  | label => exact composed_access hPlain .label _
  | placeholder =>
      exact composed_access hPlain .placeholder _
  | altText => exact composed_access hPlain .altText _
  | title => exact composed_access hPlain .title _
  | uniqueId => exact hCss
  | name => exact hCss
  | classAttribute => exact hCss
  | cssPath => exact hCss

theorem composed_locator
    (hPlain : d.IsPlain)
    (target : Target) :
    d.Composed (d.locator target) := by
  have hHops :
      d.Composed (String.join (target.frames.map d.hop)) := by
    apply Composed.join
    intro text hText
    rcases List.mem_map.mp hText with ⟨frame, _, rfl⟩
    exact composed_access hPlain _ _
  exact ((Composed.plain (hPlain.objectName .page)).append
    hHops).append (composed_element hPlain _ _)

------------------------------------------------------------
-- Statements
------------------------------------------------------------

theorem composed_receiver
    (hPlain : d.IsPlain)
    (receiver : Receiver) :
    d.Composed (d.receiver receiver) := by
  cases receiver with
  | object object => exact .plain (hPlain.objectName object)
  | element target => exact composed_locator hPlain target

theorem composed_expression
    (hPlain : d.IsPlain)
    {call : Call}
    (hCode :
      ∀ argument ∈ call.arguments, argument.IsPlainCode) :
    d.Composed (d.expression call) := by
  have hLink :=
    plain_link (hPlain.methodName call.method)
  have hArguments :
      d.Composed
        (Dialect.commas (call.arguments.map d.argument)) := by
    apply Composed.commas
    intro text hText
    rcases List.mem_map.mp hText with
      ⟨argument, hArgument, rfl⟩
    exact composed_argument hPlain
      (hCode argument hArgument)
  have hCall :=
    (((composed_receiver hPlain call.receiver).append
      (.plain hLink)).append hArguments).append
        (.plain plain_closing)
  unfold expression
  simpa only [String.append_assoc] using hCall

/- Every operation but a note is a composed statement. -/
theorem composed_operation
    (hPlain : d.IsPlain)
    {operation : Operation}
    (hNote : operation.isNote = false) :
    d.Composed (d.operation operation) := by
  rcases Call.exists_of? hNote with ⟨call, hCall⟩
  have hExpression : d.Composed (d.expression call) :=
    composed_expression hPlain fun _ hArgument =>
      Call.isPlainCode_of_mem_arguments hCall hArgument
  rw [d.operation_of_call hCall]
  exact ((Composed.plain hPlain.statementOpen).append
    hExpression).append (.plain hPlain.statementClose)

end Dialect

------------------------------------------------------------
-- The Four Languages
------------------------------------------------------------

/-
  It is enough to look at the list of all spellings and at
  the quotation mark.
-/
theorem Dialect.IsPlain.of_spellings
    {d : Dialect}
    (hMark : Quoted.IsMark d.mark)
    (hSpellings : ∀ s ∈ d.spellings, Plain s) :
    d.IsPlain where
  mark := hMark
  methodName := by
    intro method
    apply hSpellings
    simp [spellings]
  objectName := by
    intro object
    apply hSpellings
    simp [spellings]
  accessorName := by
    intro accessor
    apply hSpellings
    simp [spellings]
  roleAccessor := hSpellings _ (by simp [spellings])
  roleConstant := by
    intro opening hOpening
    apply hSpellings
    simp [spellings, Option.mem_def.mp hOpening]
  roleNameOpen := by
    intro scope
    apply hSpellings
    simp [spellings]
  roleNameClose := hSpellings _ (by simp [spellings])
  listOpen := hSpellings _ (by simp [spellings])
  listClose := hSpellings _ (by simp [spellings])
  fileOpen := hSpellings _ (by simp [spellings])
  fileClose := hSpellings _ (by simp [spellings])
  filesOpen := hSpellings _ (by simp [spellings])
  filesClose := hSpellings _ (by simp [spellings])
  buttonOption := by
    intro button
    apply hSpellings
    cases button <;> simp [spellings]
  statementOpen := hSpellings _ (by simp [spellings])
  statementClose := hSpellings _ (by simp [spellings])
  commentOpen := hSpellings _ (by simp [spellings])
  indentUnit := hSpellings _ (by simp [spellings])
  footer := by
    intro line hLine
    apply hSpellings
    simp [spellings, hLine]
  stepOpen := hSpellings _ (by simp [spellings])
  stepOpenEnd := hSpellings _ (by simp [spellings])
  stepClose := by
    intro line hLine
    apply hSpellings
    simp [spellings, Option.mem_def.mp hLine]
  filler := by
    intro line hLine
    apply hSpellings
    simp [spellings, Option.mem_def.mp hLine]

/- The spellings of the web languages share all but a line. -/
theorem scriptDialect_isPlain
    (importLine : String) :
    (scriptDialect importLine).IsPlain := by
  apply Dialect.IsPlain.of_spellings
  · exact Or.inl rfl
  · have hSpellings :
        ∀ s ∈ (scriptDialect "").spellings, Plain s := by
      decide +kernel
    exact hSpellings

theorem pythonDialect_isPlain : pythonDialect.IsPlain := by
  apply Dialect.IsPlain.of_spellings
  · exact Or.inr rfl
  · decide +kernel

theorem javaDialect_isPlain : javaDialect.IsPlain := by
  apply Dialect.IsPlain.of_spellings
  · exact Or.inr rfl
  · decide +kernel

end Script

/- Every language has plain spellings. -/
theorem Language.dialect_isPlain
    (language : Language) :
    language.dialect.IsPlain := by
  cases language with
  | javaScript => exact Script.scriptDialect_isPlain _
  | typeScript => exact Script.scriptDialect_isPlain _
  | python => exact Script.pythonDialect_isPlain
  | java => exact Script.javaDialect_isPlain

end Clickstream
