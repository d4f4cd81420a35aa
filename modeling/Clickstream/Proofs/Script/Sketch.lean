import Clickstream.Proofs.Script.Vocabulary

/-
  Sketches: what a dialect writes down of an operation. Two
  operations may be written alike, as a click on a test id and
  a click on its style-sheet selector; a sketch keeps just
  what is written.

  Key definitions:
    * `Look`, `Look.ofSelector`, `Look.ofTarget`
    * `Method.Takes`: the arguments of a method
    * `Sketch`, `Sketch.of?`
    * `Dialect.looks`, `Dialect.sketch`

  Key theorems:
    * `Dialect.locator_eq_looks`
    * `Dialect.expression_eq_sketch`
    * `Dialect.operation_of_sketch`
-/

namespace Clickstream

namespace Script

------------------------------------------------------------
-- Looks
------------------------------------------------------------

/- How an element is looked for, its selector spelled out. -/
inductive Look where
  | access (accessor : Accessor) (text : String)
  | role
      (role : String) (hRole : role ∈ knownRoles)
      (name : Option String)

namespace Look

/- How the element of a selector is looked for. -/
def ofSelector (selector : Selector) : Look :=
  let css := access .locator selector.toCss
  match selector.kind with
  | .testId =>
      if selector.isDefaultTestId then
        access .testId selector.value
      else css
  | .role =>
      if hRole : selector.value ∈ knownRoles then
        role selector.value hRole selector.aux
      else css
  | .label => access .label selector.value
  | .placeholder => access .placeholder selector.value
  | .altText => access .altText selector.value
  | .title => access .title selector.value
  | .uniqueId | .name | .classAttribute | .cssPath => css

/- How the host of a frame is looked for. -/
def ofFrame (frame : Frame) : Look :=
  access (Dialect.hopAccessor frame.kind)
    frame.selector.toCss

/- How a target is looked for: through frames, one by one. -/
def ofTarget (target : Target) : List Look :=
  target.frames.map ofFrame ++ [ofSelector target.selector]

/- What one looks in afterwards. -/
def scope : Look → Scope
  | access .frameLocator _ => .frameLocator
  | _ => .locator

end Look

namespace Dialect

variable (d : Dialect)

/- A look, from within a scope. -/
def look (scope : Scope) : Look → String
  | .access accessor text => d.access accessor text
  | .role role _ name => d.role role name scope

/- Looks, each in what the one before it found. -/
def looks : Scope → List Look → String
  | _, [] => ""
  | scope, look :: rest =>
      d.look scope look ++ looks look.scope rest

/- Elements are spelled by how they are looked for. -/
theorem element_eq_look
    (selector : Selector)
    (scope : Scope) :
    d.element selector scope =
      d.look scope (Look.ofSelector selector) := by
  unfold element Look.ofSelector
  cases selector.kind with
  | testId =>
      dsimp only
      split <;> rfl
  | role =>
      dsimp only
      by_cases hRole : selector.value ∈ knownRoles
      · rw [if_pos (List.contains_iff_mem.mpr hRole),
          dif_pos hRole]
        rfl
      · rw [if_neg (mt List.contains_iff_mem.mp hRole),
          dif_neg hRole]
        rfl
  | _ => rfl

/- The scope behind a frame is the one its look leads to. -/
theorem scope_ofFrame (frame : Frame) :
    (Look.ofFrame frame).scope = hopScope frame.kind := by
  unfold Look.ofFrame
  cases frame.kind <;> rfl

/-
  The scope of a selector is read off the last frame, and
  looks hand it on from frame to frame.
-/
theorem looks_ofTarget
    (frames : FramePath)
    (selector : Selector)
    (scope : Scope) :
    d.looks scope (Look.ofTarget ⟨frames, selector⟩) =
      String.join (frames.map d.hop) ++
        d.element selector
          ((frames.getLast?.map (hopScope ·.kind)).getD
            scope) := by
  unfold Look.ofTarget
  induction frames generalizing scope with
  | nil =>
      simp [looks, element_eq_look]
  | cons frame frames ih =>
      have hScope :
          ((frame :: frames).getLast?.map
              (hopScope ·.kind)).getD scope =
            (frames.getLast?.map (hopScope ·.kind)).getD
              (hopScope frame.kind) := by
        cases frames with
        | nil => rfl
        | cons next rest =>
            rw [List.getLast?_cons_cons,
              List.getLast?_cons]
            rfl
      rw [List.map_cons, List.cons_append, looks, ih,
        scope_ofFrame, hScope, List.map_cons,
        String.join_cons, String.append_assoc]
      rfl

/- Locators are spelled look by look. -/
theorem locator_eq_looks (target : Target) :
    d.locator target =
      d.objectName .page ++
        d.looks .page (Look.ofTarget target) := by
  have hScope :
      scopeAfter target.frames =
        (target.frames.getLast?.map (hopScope ·.kind)).getD
          .page := by
    unfold scopeAfter
    cases target.frames.getLast? <;> rfl
  rw [looks_ofTarget, locator, hScope, String.append_assoc]

end Dialect

------------------------------------------------------------
-- Sketches
------------------------------------------------------------

/- The arguments that a method is called with. -/
inductive Method.Takes : Method → List Argument → Prop where
  | nothing
      {method : Method}
      (hMethod : method ∈
        [click, doubleClick, check, uncheck, hover, focus,
          blur, waitFor, down, up]) :
      Takes method []
  | button (button : MouseButton) :
      Takes click [.button button]
  | text
      {method : Method}
      (hMethod : method ∈ [goto, fill, press])
      (text : String) :
      Takes method [.text text]
  | choice (text : String) :
      Takes selectOption [.text text]
  | choices (items : List String) :
      Takes selectOption [.texts items]
  | files (names : List String) :
      Takes setInputFiles [.files names]
  | code (source : String) :
      Takes evaluate [.code source]
  | number (n : Int) :
      Takes waitForTimeout [.number n]

/- Calls of operations give their methods what they take. -/
theorem Call.takes_of?
    {operation : Operation}
    {call : Call}
    (hCall : Call.of? operation = some call) :
    call.method.Takes call.arguments := by
  cases operation
  case click target button =>
    cases button <;>
      simp only [Call.of?, Option.some.injEq] at hCall <;>
      subst hCall
    · exact .nothing (by simp [Call.on])
    · exact .button .right
  case press target key =>
    cases target <;>
      simp only [Call.of?, Option.some.injEq] at hCall <;>
      subst hCall <;>
      exact .text (by simp [Call.on, Call.page]) key
  case selectOption target values multiple =>
    simp only [Call.of?, Option.some.injEq] at hCall
    subst hCall
    cases multiple
    · exact .choice _
    · exact .choices _
  case scrollWindow frames x y =>
    simp only [Call.of?, Call.scrollWindow,
      Option.some.injEq] at hCall
    subst hCall
    split <;> exact .code _
  case note text => cases hCall
  all_goals
    simp only [Call.of?, Option.some.injEq] at hCall
    subst hCall
  case goto url => exact .text (by simp [Call.page]) url
  case fill target value =>
    exact .text (by simp [Call.on]) value
  case setInputFiles target files => exact .files files
  case scrollElement target x y => exact .code _
  case requestSubmit target => exact .code _
  case settleWait ms => exact .number _
  all_goals exact .nothing (by simp [Call.on, Call.page])

/- A call with its receiver spelled out. -/
structure Sketch where
  object : PageObject
  looks : List Look
  method : Method
  arguments : List Argument
  takes : method.Takes arguments

namespace Sketch

/- What a call is made on, as an object and looks. -/
def ofReceiver : Receiver → PageObject × List Look
  | .object object => (object, [])
  | .element target => (.page, Look.ofTarget target)

/- The sketch of a call. -/
def ofCall
    (call : Call)
    (hTakes : call.method.Takes call.arguments) : Sketch where
  object := (ofReceiver call.receiver).1
  looks := (ofReceiver call.receiver).2
  method := call.method
  arguments := call.arguments
  takes := hTakes

/- The sketch of an operation, unless it is a note. -/
def of? (operation : Operation) : Option Sketch :=
  (Call.of? operation).attach.map fun call =>
    ofCall call.1 (Call.takes_of? call.2)

/- Every operation but a note has a sketch. -/
theorem exists_of?
    {operation : Operation}
    (hNote : operation.isNote = false) :
    ∃ sketch, of? operation = some sketch := by
  rcases Call.exists_of? hNote with ⟨call, hCall⟩
  refine ⟨ofCall call (Call.takes_of? hCall), ?_⟩
  unfold of?
  simp [Option.attach_eq_some_iff, hCall]

end Sketch

------------------------------------------------------------
-- Links
------------------------------------------------------------

/- What may follow a dot. -/
inductive Link where
  | method (method : Method)
  | access (accessor : Accessor)
  | role

/- Every link. -/
def Link.all : List Link :=
  Method.all.map method ++ Accessor.all.map access ++ [role]

@[simp] theorem Link.mem_all (link : Link) :
    link ∈ Link.all := by
  cases link <;> simp [Link.all]

namespace Dialect

variable (d : Dialect)

/- The name behind a dot. -/
def linkName : Link → String
  | .method method => d.methodName method
  | .access accessor => d.accessorName accessor
  | .role => d.roleAccessor

/- A link, up to its arguments. -/
def link (link : Link) : String :=
  "." ++ d.linkName link ++ "("

/- A sketch as an expression. -/
def sketch (sketch : Sketch) : String :=
  d.objectName sketch.object ++
    (d.looks .page sketch.looks ++
      (d.link (.method sketch.method) ++
        (commas (sketch.arguments.map d.argument) ++ ")")))

/- Expressions are spelled by their sketches. -/
theorem expression_eq_sketch
    (call : Call)
    (hTakes : call.method.Takes call.arguments) :
    d.expression call =
      d.sketch (Sketch.ofCall call hTakes) := by
  unfold expression sketch link Sketch.ofCall
  cases call.receiver with
  | object object =>
      simp [receiver, Sketch.ofReceiver, looks, linkName,
        String.append_assoc]
  | element target =>
      simp [receiver, Sketch.ofReceiver, linkName,
        locator_eq_looks, String.append_assoc]

/- Operations are statements of their sketches. -/
theorem operation_of_sketch
    {operation : Operation}
    {sketch : Sketch}
    (hSketch : Sketch.of? operation = some sketch) :
    d.operation operation =
      d.statement (d.sketch sketch) := by
  unfold Sketch.of? at hSketch
  rcases Option.map_eq_some_iff.mp hSketch with
    ⟨⟨call, hCall⟩, _, rfl⟩
  rw [d.operation_of_call hCall, expression_eq_sketch]

end Dialect

end Script

end Clickstream
