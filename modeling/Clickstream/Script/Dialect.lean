import Clickstream.Text.Ascii
import Clickstream.Text.Lines
import Clickstream.Text.Quoted
import Clickstream.Script.Call
import Clickstream.Script.Roles

/-
  Dialects: how a test language spells calls, texts, remarks
  and the frame of a file. A dialect is a record of spellings;
  what is put together from them is the same in all dialects.

  Key definitions:
    * `Dialect`
    * `Dialect.quote`, `Dialect.list`, `Dialect.files`,
      `Dialect.code`
    * `Dialect.role`, `Dialect.element`, `Dialect.locator`
    * `Dialect.expression`, `Dialect.statement`
    * `Dialect.comment`
    * `Dialect.operation`
-/

namespace Clickstream

namespace Script

------------------------------------------------------------
-- Spellings
------------------------------------------------------------

/-
  The spellings of a test language. Where two texts are given
  as `…Open` and `…Close` they stand around something else.
-/
structure Dialect where
  /- The quotation mark of literals. -/
  mark : Char
  /- Whether code for the browser is written as a literal. -/
  quotesCode : Bool
  methodName : Method → String
  objectName : PageObject → String
  accessorName : Accessor → String
  roleAccessor : String
  /- What precedes a role that is written as a constant. -/
  roleConstant : Option String
  roleNameOpen : Scope → String
  roleNameClose : String
  listOpen : String
  listClose : String
  fileOpen : String
  fileClose : String
  filesOpen : String
  filesClose : String
  buttonOption : MouseButton → String
  statementOpen : String
  statementClose : String
  commentOpen : String
  /- What is done to comments beyond keeping to one line. -/
  guardComment : List Char → List Char
  indentUnit : String
  /- How far the body of the test is moved in. -/
  bodyDepth : Nat
  /- The lines of a file before the body, given the name. -/
  header : String → List String
  /- The lines of a file after the body. -/
  footer : List String
  stepOpen : String
  stepOpenEnd : String
  stepClose : Option String
  /- The statement of a body that has no other one. -/
  filler : Option String

namespace Dialect

------------------------------------------------------------
-- Arguments
------------------------------------------------------------

/- A text as a literal. -/
def quote
    (d : Dialect)
    (s : String) : String :=
  Text.Quoted.write d.mark s

/- Items with commas between them. -/
def commas (items : List String) : String :=
  String.intercalate ", " items

/- A list of texts. -/
def list
    (d : Dialect)
    (items : List String) : String :=
  d.listOpen ++ commas (items.map d.quote) ++ d.listClose

/- One file name. -/
def file
    (d : Dialect)
    (name : String) : String :=
  d.fileOpen ++ d.quote name ++ d.fileClose

/- File names: a single one stands alone. -/
def files
    (d : Dialect)
    (names : List String) : String :=
  match names with
  | [name] => d.file name
  | _ =>
      d.filesOpen ++ commas (names.map d.file) ++ d.filesClose

/- Code that runs in the browser. -/
def code
    (d : Dialect)
    (source : String) : String :=
  if d.quotesCode then d.quote source else source

/- An argument of a call. -/
def argument (d : Dialect) : Argument → String
  | .text s => d.quote s
  | .texts items => d.list items
  | .number n => toString n
  | .code source => d.code source
  | .files names => d.files names
  | .button b => d.buttonOption b

------------------------------------------------------------
-- Locators
------------------------------------------------------------

/- Look for an element by one text. -/
def access
    (d : Dialect)
    (accessor : Accessor)
    (s : String) : String :=
  "." ++ d.accessorName accessor ++ "(" ++ d.quote s ++ ")"

/- A role as an argument. -/
def roleWord
    (d : Dialect)
    (role : String) : String :=
  match d.roleConstant with
  | some opening => opening ++ Text.upper role
  | none => d.quote role

/- Look for an element by its role, and by its name if known. -/
def role
    (d : Dialect)
    (role : String)
    (name : Option String)
    (scope : Scope) : String :=
  "." ++ d.roleAccessor ++ "(" ++ d.roleWord role ++
    (match name with
    | some name =>
        d.roleNameOpen scope ++ d.quote name ++
          d.roleNameClose
    | none => "") ++ ")"

/-
  Look for an element by its selector. Test ids in other
  attributes and roles that no framework knows are looked for
  by style-sheet selectors.
-/
def element
    (d : Dialect)
    (selector : Selector)
    (scope : Scope) : String :=
  let css := d.access .locator selector.toCss
  match selector.kind with
  | .testId =>
      if selector.isDefaultTestId then
        d.access .testId selector.value
      else css
  | .role =>
      if knownRoles.contains selector.value then
        d.role selector.value selector.aux scope
      else css
  | .label => d.access .label selector.value
  | .placeholder => d.access .placeholder selector.value
  | .altText => d.access .altText selector.value
  | .title => d.access .title selector.value
  | .uniqueId | .name | .classAttribute | .cssPath => css

/- How a frame is entered. -/
def hopAccessor : Frame.Kind → Accessor
  | .iframe => .frameLocator
  | .shadow => .locator

/- What one looks in after entering a frame. -/
def hopScope : Frame.Kind → Scope
  | .iframe => .frameLocator
  | .shadow => .locator

/- Enter one frame. -/
def hop
    (d : Dialect)
    (frame : Frame) : String :=
  d.access (hopAccessor frame.kind) frame.selector.toCss

/- What one looks in after entering frames one by one. -/
def scopeAfter (frames : FramePath) : Scope :=
  match frames.getLast? with
  | some frame => hopScope frame.kind
  | none => .page

/- The page, then the frames in order, then the element. -/
def locator
    (d : Dialect)
    (target : Target) : String :=
  d.objectName .page ++
    String.join (target.frames.map d.hop) ++
    d.element target.selector (scopeAfter target.frames)

------------------------------------------------------------
-- Statements and Comments
------------------------------------------------------------

/- What a call is made on. -/
def receiver (d : Dialect) : Receiver → String
  | .object object => d.objectName object
  | .element target => d.locator target

/- A call. -/
def expression
    (d : Dialect)
    (call : Call) : String :=
  d.receiver call.receiver ++ "." ++
    d.methodName call.method ++ "(" ++
    commas (call.arguments.map d.argument) ++ ")"

/- An expression as a statement. -/
def statement
    (d : Dialect)
    (expression : String) : String :=
  d.statementOpen ++ expression ++ d.statementClose

/- A comment on one line. -/
def comment
    (d : Dialect)
    (s : String) : String :=
  d.commentOpen ++
    String.ofList (d.guardComment (Text.oneLine s.toList))

/- An operation as a statement, a note as a comment. -/
def operation
    (d : Dialect) :
    Operation → String
  | .note text => d.comment text
  | other =>
      match Call.of? other with
      | some call => d.statement (d.expression call)
      | none => ""

/- The line that opens a step. -/
def openStep
    (d : Dialect)
    (title : String) : String :=
  d.stepOpen ++ d.quote title ++ d.stepOpenEnd

end Dialect

end Script

end Clickstream
