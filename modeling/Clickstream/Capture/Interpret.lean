import Clickstream.Event.Basic
import Clickstream.Capture.Settings
import Clickstream.Capture.Draft

/-
  Interpretation: what an event of a page means as an action
  of the user. An event is passed over, or it is an action at
  once, or it is an action that has to settle because more of
  the same may follow.

  Key definitions:
    * `Field`: a form field across events
    * `TimerKey`: what settles independently
    * `Verdict`
    * `Capture.clickKind`, `Capture.isClickable`
    * `Capture.isRecordableKey`
    * `Settings.interpret`
-/

namespace Clickstream

namespace Capture

------------------------------------------------------------
-- Verdicts
------------------------------------------------------------

/- A form field, known by its selector and its frames. -/
structure Field where
  selector : Selector
  frames : FramePath
deriving DecidableEq, Repr, Inhabited

/-
  What settles on its own: typing for each field, hovering
  and scrolling as a whole.
-/
inductive TimerKey where
  | typing (field : Field)
  | hover
  | scroll
deriving DecidableEq, Repr, Inhabited

/- What becomes of an event. -/
inductive Verdict where
  | ignore
  | record (action : Action)
  | settle (key : TimerKey) (deadline : Nat) (action : Action)
deriving DecidableEq, Repr, Inhabited

/- The field an action was done to. -/
def fieldOf (a : Action) : Field :=
  ⟨a.selector.getD (Selector.cssPath "*"), a.frames⟩

------------------------------------------------------------
-- Clicks
------------------------------------------------------------

/-
  What a click means. The secondary button and the second
  click of a row go before the kind of control.
-/
def clickKind
    (e : Element)
    (clicks button : Nat) : Action.Kind :=
  if button = 2 then .rightClick
  else if clicks = 2 then .doubleClick
  else if e.hasTag ["form"] || e.isSubmitControl then .submit
  else if e.isCheckable then .check
  else if e.isFileInput then .upload
  else if e.isSelect then .select
  else .click

/- All that a click can mean. -/
theorem clickKind_mem
    (e : Element)
    (clicks button : Nat) :
    clickKind e clicks button ∈
      [Action.Kind.rightClick, .doubleClick, .submit, .check,
        .upload, .select, .click] := by
  unfold clickKind
  repeat' split
  all_goals decide

/- The kinds of action that only a live element gives rise to. -/
def needsLiveElement (kind : Action.Kind) : Bool :=
  kind = .click || kind = .doubleClick || kind = .rightClick

/- Whether a user can have meant to click on an element. -/
def isClickable (e : Element) : Bool :=
  e.isInteractive && !e.isHidden && !e.isDisabled &&
    e.inViewport

/- What becomes of a click. -/
def interpretClick
    (e : Element)
    (clicks button timestamp : Nat) : Verdict :=
  let kind := clickKind e clicks button
  if e.inRecorderOverlay then .ignore
  else if needsLiveElement kind && !isClickable e then .ignore
  else .record (e.action kind timestamp)

------------------------------------------------------------
-- Values
------------------------------------------------------------

/- An action with an empty text in place of no value. -/
def withSomeValue (a : Action) : Action :=
  { a with value := some (a.value.getD (.text "")) }

/- What becomes of a changed value. -/
def Settings.interpretChange
    (settings : Settings)
    (e : Element)
    (timestamp : Nat) : Verdict :=
  if e.inRecorderOverlay then .ignore
  else if e.isSelect then .record (e.action .select timestamp)
  else if e.isCheckable then
    .record (e.action .check timestamp)
  else if e.isFileInput then
    .record (e.action .upload timestamp)
  else if e.isTextEntry then
    let typed := withSomeValue (e.action .type timestamp)
    .settle (.typing (fieldOf typed))
      (clockAfter timestamp settings.typeDelay) typed
  else .ignore

------------------------------------------------------------
-- Focus and Pointer
------------------------------------------------------------

/- What becomes of a focus. -/
def interpretFocus
    (e : Element)
    (timestamp : Nat) : Verdict :=
  if e.isFormField || e.hasAttr "tabindex" ||
      e.role? = some "button" then
    .record (e.action .focus timestamp)
  else .ignore

/- What becomes of a lost focus. -/
def interpretBlur
    (e : Element)
    (timestamp : Nat) : Verdict :=
  if e.isFormField then .record (e.action .blur timestamp)
  else .ignore

/- What becomes of a pointer that comes to an element. -/
def Settings.interpretHover
    (settings : Settings)
    (e : Element)
    (timestamp : Nat) : Verdict :=
  if e.inRecorderOverlay || !e.hasTooltip then .ignore
  else
    .settle .hover (clockAfter timestamp settings.hoverDelay)
      (e.action .hover timestamp)

/- What becomes of an event that only names an element. -/
def Settings.interpretGesture
    (settings : Settings)
    (gesture : Gesture)
    (e : Element)
    (timestamp : Nat) : Verdict :=
  match gesture with
  | .contextMenu => interpretClick e 1 2 timestamp
  | .input | .change => settings.interpretChange e timestamp
  | .focus => interpretFocus e timestamp
  | .blur => interpretBlur e timestamp
  | .mouseOver => settings.interpretHover e timestamp
  | .submit =>
      .record { e.action .submit timestamp with value := none }
  | .dragStart => .record (e.bareAction .dragStart timestamp)
  | .drop => .record (e.bareAction .drop timestamp)

------------------------------------------------------------
-- Keys
------------------------------------------------------------

/- The keys that do something with a shortcut key held. -/
def shortcutKeys : List String :=
  ["c", "v", "x", "a"]

/- The keys that move about a page. -/
def navigationKeys : List String :=
  ["Escape", "Tab", "ArrowUp", "ArrowDown", "ArrowLeft",
    "ArrowRight"]

/-
  The keys worth recording: shortcuts, Enter in a field, and
  keys that move about.
-/
def isRecordableKey
    (e : Element)
    (key : String)
    (modifiers : Modifiers) : Bool :=
  if modifiers.shortcut &&
      shortcutKeys.contains (Text.lower key) then true
  else if key = "Enter" then e.hasTag ["input", "textarea"]
  else navigationKeys.contains key

/-
  What becomes of a key. A key pressed outside every element
  is pressed on the page.
-/
def interpretKey
    (e : Element)
    (key : String)
    (modifiers : Modifiers)
    (timestamp : Nat) : Verdict :=
  let pressed := e.action .keypress timestamp
  if isRecordableKey e key modifiers then
    .record { pressed with
      selector :=
        if e.isDocumentRoot then none else pressed.selector
      value := none
      key := some key
      modifiers := some modifiers }
  else .ignore

------------------------------------------------------------
-- Scrolling
------------------------------------------------------------

/-
  A scroll before its position is known: of an element, or of
  the whole document in its frame.
-/
def scrollDraft
    (target : Option Element)
    (timestamp : Nat) : Action :=
  match target with
  | none => { kind := .scroll, timestamp := timestamp }
  | some e =>
      if e.isDocumentRoot then
        { kind := .scroll
          frames := e.frames
          timestamp := timestamp }
      else { e.action .scroll timestamp with value := none }

/- What becomes of a scroll. -/
def Settings.interpretScroll
    (settings : Settings)
    (target : Option Element)
    (x y : Int)
    (timestamp : Nat) : Verdict :=
  .settle .scroll (clockAfter timestamp settings.scrollDelay)
    { scrollDraft target timestamp with
      scrollX := some x
      scrollY := some y }

------------------------------------------------------------
-- Events
------------------------------------------------------------

/-
  What becomes of an event, given the last known address of
  the page. A mutation that leaves the address alone means
  nothing to the user.
-/
def Settings.interpret
    (settings : Settings)
    (location : Option String)
    (event : Event) : Verdict :=
  let timestamp := event.timestamp
  match event.occurrence with
  | .gesture g e => settings.interpretGesture g e timestamp
  | .click e clicks button =>
      interpretClick e clicks button timestamp
  | .keyDown e key modifiers =>
      interpretKey e key modifiers timestamp
  | .scroll target x y =>
      settings.interpretScroll target x y timestamp
  | .mutation address =>
      if location = some address then .ignore
      else .record (Action.navigate address location timestamp)
  | .unload address =>
      .record (Action.navigate address none timestamp)

end Capture

end Clickstream
