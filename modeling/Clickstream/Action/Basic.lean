import Clickstream.Frame

/-
  Actions: what a user did, one entry of a recording.

  Key definitions:
    * `Action.Kind`: the known kinds and any other name
    * `Action.Value`: a text, a list of texts, or a flag
    * `Modifiers`
    * `Action`
    * `Action.navigate`, `Action.on`
    * `Action.SameTarget`
    * `scrollDistance`, `clockAfter`
-/

namespace Clickstream

------------------------------------------------------------
-- Kinds
------------------------------------------------------------

/-
  What kind of thing was done. A name that is not known is
  kept, so that it can be written back and remarked upon.
-/
inductive Action.Kind where
  | click
  | doubleClick
  | rightClick
  | type
  | check
  | select
  | upload
  | navigate
  | hover
  | focus
  | blur
  | wait
  | keypress
  | scroll
  | dragStart
  | drop
  | submit
  | other (name : String)
deriving DecidableEq, Repr, Inhabited

namespace Action.Kind

/- The kinds that have a meaning. -/
def known : List Kind :=
  [.click, .doubleClick, .rightClick, .type, .check, .select,
    .upload, .navigate, .hover, .focus, .blur, .wait,
    .keypress, .scroll, .dragStart, .drop, .submit]

/- The written name of a kind. -/
def wireName : Kind → String
  | .click => "click"
  | .doubleClick => "doubleClick"
  | .rightClick => "rightClick"
  | .type => "type"
  | .check => "check"
  | .select => "select"
  | .upload => "upload"
  | .navigate => "navigate"
  | .hover => "hover"
  | .focus => "focus"
  | .blur => "blur"
  | .wait => "wait"
  | .keypress => "keypress"
  | .scroll => "scroll"
  | .dragStart => "dragStart"
  | .drop => "drop"
  | .submit => "submit"
  | .other name => name

/- The kind with a written name. -/
def ofWireName (name : String) : Kind :=
  (known.find? (fun kind => kind.wireName = name)).getD
    (.other name)

end Action.Kind

------------------------------------------------------------
-- Values and Modifiers
------------------------------------------------------------

/-
  What a control held: a text for most fields, a list for
  fields with several choices, a flag for check boxes.
-/
inductive Action.Value where
  | text (text : String)
  | list (items : List String)
  | flag (on : Bool)
deriving DecidableEq, Repr, Inhabited

namespace Action.Value

/- The text of a value that is a text. -/
def text? : Value → Option String
  | .text t => some t
  | _ => none

/- A value as a list of choices. -/
def toList : Value → List String
  | .text t => [t]
  | .list items => items
  | .flag true => ["true"]
  | .flag false => ["false"]

end Action.Value

/- The keys that were held while another one was pressed. -/
structure Modifiers where
  ctrl : Bool := false
  shift : Bool := false
  alt : Bool := false
  metaKey : Bool := false
deriving DecidableEq, Repr, Inhabited

namespace Modifiers

/- Whether any of them was held. -/
def any (m : Modifiers) : Bool :=
  m.ctrl || m.shift || m.alt || m.metaKey

/- Whether one of the two keys for shortcuts was held. -/
def shortcut (m : Modifiers) : Bool :=
  m.ctrl || m.metaKey

end Modifiers

------------------------------------------------------------
-- Actions
------------------------------------------------------------

/-
  One thing a user did. Which of the optional parts are there
  depends on the kind and on who recorded the action; an
  action that lacks a part it needs is kept all the same.
  `timestamp` counts milliseconds.
-/
structure Action where
  kind : Action.Kind
  selector : Option Selector := none
  frames : FramePath := []
  value : Option Action.Value := none
  url : Option String := none
  previousUrl : Option String := none
  timestamp : Nat := 0
  checked : Option Bool := none
  inputType : Option String := none
  multiple : Option Bool := none
  key : Option String := none
  modifiers : Option Modifiers := none
  scrollX : Option Int := none
  scrollY : Option Int := none
  tagName : Option String := none
  text : Option String := none
  elementId : Option String := none
  hasTooltip : Bool := false
  isImportant : Bool := false
deriving DecidableEq, Repr, Inhabited

namespace Action

/-
  The page went to `url`. A previous address is kept only if
  there is something in it.
-/
def navigate
    (url : String)
    (previous : Option String)
    (timestamp : Nat) : Action :=
  { kind := .navigate
    url := some url
    previousUrl := previous.filter (fun p => p ≠ "")
    timestamp := timestamp }

/- Something was done to one element. -/
def on
    (kind : Kind)
    (selector : Selector)
    (frames : FramePath)
    (timestamp : Nat) : Action :=
  { kind := kind
    selector := some selector
    frames := frames
    timestamp := timestamp }

/- Whether the page went somewhere. -/
def isNavigation (a : Action) : Bool :=
  a.kind = .navigate

/- The address of a navigation that has one. -/
def address? (a : Action) : Option String :=
  if a.isNavigation then a.url else none

/- The text of the value, if it is a text. -/
def valueText? (a : Action) : Option String :=
  a.value.bind Value.text?

/- Where a scroll went; a missing coordinate is zero. -/
def position (a : Action) : Int × Int :=
  (a.scrollX.getD 0, a.scrollY.getD 0)

/-
  Two actions of one kind, with one key if any, on one
  element in one frame.
-/
def SameTarget (a b : Action) : Prop :=
  a.kind = b.kind ∧ a.selector = b.selector ∧
    a.frames = b.frames ∧ a.key = b.key

instance (a b : Action) : Decidable (SameTarget a b) := by
  unfold SameTarget
  infer_instance

/-
  How long after `a` the action `b` happened. Time does not
  run backwards here: an earlier `b` counts as simultaneous.
-/
def elapsed (a b : Action) : Nat :=
  b.timestamp - a.timestamp

end Action

------------------------------------------------------------
-- Distances
------------------------------------------------------------

/-
  How far it is from one coordinate to another, in 64 bits. A
  difference that does not fit wraps, so that coordinates may
  lie far apart and count as close.
-/
def distance (a b : Int) : Int :=
  (Int64.ofInt b - Int64.ofInt a).abs.toInt

/- It is the ordinary distance where the difference fits. -/
theorem distance_eq_natAbs
    {a b : Int}
    (hNear : (b - a).natAbs ≤ Int64.maxValue.toInt) :
    distance a b = (b - a).natAbs := by
  rw [Int64.toInt_maxValue] at hNear
  have hValue : (Int64.ofInt (b - a)).toInt = b - a :=
    Int64.toInt_ofInt_of_le (by omega) (by omega)
  have hOther :
      (Int64.ofInt (b - a)).toBitVec ≠ BitVec.intMin 64 := by
    intro hSame
    have hLeast := BitVec.toInt_intMin (w := 64)
    rw [← hSame, Int64.toInt_toBitVec, hValue] at hLeast
    omega
  unfold distance
  rw [← Int64.ofInt_sub, ← Int64.toInt_toBitVec,
    Int64.toBitVec_abs,
    BitVec.toInt_abs_eq_natAbs_of_ne_intMin hOther,
    Int64.toInt_toBitVec, hValue]

/- The larger of the two distances between two positions. -/
def scrollDistance (p q : Int × Int) : Int :=
  max (distance p.1 q.1) (distance p.2 q.2)

------------------------------------------------------------
-- Clocks
------------------------------------------------------------

/-
  The time that a clock of 64 bits shows some time after
  another. Past its last time it starts again at zero.
-/
def clockAfter (time delay : Nat) : Nat :=
  (time + delay) % UInt64.size

theorem clockAfter_of_lt
    {time delay : Nat}
    (hRoom : time + delay < UInt64.size) :
    clockAfter time delay = time + delay :=
  Nat.mod_eq_of_lt hRoom

end Clickstream
