import Clickstream.Proofs.Capture.Run
import Clickstream.Proofs.Capture.Password

/-
  Events that have to settle: typing, hovering and scrolling,
  each with its delay, and no others. Where the page is does
  not matter to them.

  Key definitions:
    * `Settings.Postpones`
    * `TimerKey.kind`, `TimerKey.Suits`: what may wait

  Key theorems:
    * `Element.isTextEntry_cases`
    * `Settings.interpret_eq_settle_iff`
    * `Command.schedules_suits`
-/

namespace Clickstream

------------------------------------------------------------
-- What One Types Into
------------------------------------------------------------

namespace Element

variable {e : Element}

theorem isSelect_of_inputType?
    {type : String}
    (hType : e.inputType? = some type) :
    e.isSelect = false := by
  unfold isSelect hasTag
  rw [hasTag_input_of_inputType? hType]
  rfl

/- Text areas are no inputs, and inputs have their types. -/
theorem isTextEntry_cases
    (hEntry : e.isTextEntry = true) :
    (e.tagName = "textarea" ∧ e.inputType? = none) ∨
      ∃ type,
        e.inputType? = some type ∧ type ∉ untypedInputs := by
  unfold isTextEntry at hEntry
  cases hType : e.inputType? with
  | none =>
      rw [hType, Bool.or_false] at hEntry
      exact Or.inl ⟨by simpa [hasTag] using hEntry, rfl⟩
  | some type =>
      have hTag : e.hasTag ["textarea"] = false := by
        unfold hasTag
        rw [hasTag_input_of_inputType? hType]
        rfl
      rw [hType, hTag, Bool.false_or] at hEntry
      exact Or.inr ⟨type, rfl, by simpa using hEntry⟩

/- What one types into is no list to choose from. -/
theorem isSelect_of_isTextEntry
    (hEntry : e.isTextEntry = true) :
    e.isSelect = false := by
  rcases isTextEntry_cases hEntry with
    ⟨hTag, _⟩ | ⟨type, hType, _⟩
  · unfold isSelect hasTag
    rw [hTag]
    rfl
  · exact isSelect_of_inputType? hType

/- What one types into is none of the other inputs. -/
theorem hasInputType_of_isTextEntry
    {types : List String}
    (hTypes : ∀ type ∈ types, type ∈ untypedInputs)
    (hEntry : e.isTextEntry = true) :
    e.hasInputType types = false := by
  unfold hasInputType
  rcases isTextEntry_cases hEntry with
    ⟨_, hType⟩ | ⟨type, hType, hTyped⟩
  · rw [hType]
  · rw [hType]
    simpa using mt (hTypes type) hTyped

theorem isCheckable_of_isTextEntry
    (hEntry : e.isTextEntry = true) :
    e.isCheckable = false :=
  hasInputType_of_isTextEntry (by decide) hEntry

theorem isFileInput_of_isTextEntry
    (hEntry : e.isTextEntry = true) :
    e.isFileInput = false :=
  hasInputType_of_isTextEntry (by decide) hEntry

end Element

namespace Capture

------------------------------------------------------------
-- Postponing
------------------------------------------------------------

/-
  Whether an event in normal form lets an action wait under a
  key until a deadline: something was typed into a field, the
  pointer came to an element with a hint, or something was
  scrolled.
-/
inductive Settings.Postpones
    (settings : Settings) :
    Event → TimerKey → Nat → Action → Prop where
  | typed
      {gesture : Gesture}
      {e : Element}
      {time : Nat}
      (hGesture : gesture = .input ∨ gesture = .change)
      (hOverlay : e.inRecorderOverlay = false)
      (hEntry : e.isTextEntry = true) :
      Postpones settings ⟨.gesture gesture e, time⟩
        (.typing ⟨e.locate, e.frames⟩)
        (clockAfter time settings.typeDelay)
        (withSomeValue (e.action .type time))
  | hovered
      {e : Element}
      {time : Nat}
      (hOverlay : e.inRecorderOverlay = false)
      (hTooltip : e.hasTooltip = true) :
      Postpones settings ⟨.gesture .mouseOver e, time⟩ .hover
        (clockAfter time settings.hoverDelay)
        (e.action .hover time)
  | scrolled
      (target : Option Element)
      (x y : Int)
      (time : Nat) :
      Postpones settings ⟨.scroll target x y, time⟩ .scroll
        (clockAfter time settings.scrollDelay)
        { scrollDraft target time with
          scrollX := some x
          scrollY := some y }

variable {settings : Settings}
variable {location : Option String}
variable {event : Event}
variable {key : TimerKey}
variable {deadline : Nat}
variable {action : Action}
variable {e : Element}
variable {time : Nat}

theorem interpretClick_ne_settle
    (e : Element)
    (clicks button time : Nat) :
    interpretClick e clicks button time ≠
      .settle key deadline action := by
  unfold interpretClick
  dsimp only
  repeat' split
  all_goals exact nofun

/- What is typed has to settle. -/
theorem Settings.interpretChange_of_isTextEntry
    (settings : Settings)
    (hOverlay : e.inRecorderOverlay = false)
    (hEntry : e.isTextEntry = true)
    (time : Nat) :
    settings.interpretChange e time =
      .settle (.typing ⟨e.locate, e.frames⟩)
        (clockAfter time settings.typeDelay)
        (withSomeValue (e.action .type time)) := by
  unfold Settings.interpretChange
  rw [hOverlay, if_neg Bool.false_ne_true,
    Element.isSelect_of_isTextEntry hEntry,
    if_neg Bool.false_ne_true,
    Element.isCheckable_of_isTextEntry hEntry,
    if_neg Bool.false_ne_true,
    Element.isFileInput_of_isTextEntry hEntry,
    if_neg Bool.false_ne_true, if_pos hEntry]
  rfl

/- Of changed values only those that are typed have to. -/
theorem Settings.Postpones.of_interpretChange
    {gesture : Gesture}
    (hGesture : gesture = .input ∨ gesture = .change)
    (hVerdict :
      settings.interpretChange e time =
        .settle key deadline action) :
    settings.Postpones ⟨.gesture gesture e, time⟩ key deadline
      action := by
  unfold Settings.interpretChange at hVerdict
  split at hVerdict
  · cases hVerdict
  rename_i hOverlay
  split at hVerdict
  · cases hVerdict
  split at hVerdict
  · cases hVerdict
  split at hVerdict
  · cases hVerdict
  split at hVerdict
  · rename_i hEntry
    cases hVerdict
    exact .typed hGesture (Bool.eq_false_iff.mpr hOverlay) hEntry
  · cases hVerdict

theorem Settings.Postpones.of_interpretGesture
    {gesture : Gesture}
    (hVerdict :
      settings.interpretGesture gesture e time =
        .settle key deadline action) :
    settings.Postpones ⟨.gesture gesture e, time⟩ key deadline
      action := by
  cases gesture with
  | contextMenu =>
      exact absurd hVerdict (interpretClick_ne_settle e 1 2 time)
  | input => exact .of_interpretChange (Or.inl rfl) hVerdict
  | change => exact .of_interpretChange (Or.inr rfl) hVerdict
  | focus =>
      unfold Settings.interpretGesture
        interpretFocus at hVerdict
      dsimp only at hVerdict
      split at hVerdict <;> cases hVerdict
  | blur =>
      unfold Settings.interpretGesture interpretBlur at hVerdict
      dsimp only at hVerdict
      split at hVerdict <;> cases hVerdict
  | mouseOver =>
      unfold Settings.interpretGesture
        Settings.interpretHover at hVerdict
      dsimp only at hVerdict
      split at hVerdict
      · cases hVerdict
      · rename_i hHint
        simp only [Bool.or_eq_true, not_or, Bool.not_eq_true,
          Bool.not_eq_false'] at hHint
        cases hVerdict
        exact .hovered hHint.1 hHint.2
  | submit => cases hVerdict
  | dragStart => cases hVerdict
  | drop => cases hVerdict

/-
  An event has to settle just if it is one of the three, under
  the key, until the deadline and as the action told by them.
-/
theorem Settings.interpret_eq_settle_iff :
    settings.interpret location event =
        .settle key deadline action ↔
      settings.Postpones event key deadline action := by
  constructor
  · intro hVerdict
    rcases event with ⟨occurrence, time⟩
    cases occurrence with
    | gesture gesture e => exact .of_interpretGesture hVerdict
    | click e clicks button =>
        exact absurd hVerdict (interpretClick_ne_settle _ _ _ _)
    | keyDown e name modifiers =>
        dsimp only [Settings.interpret, interpretKey] at hVerdict
        split at hVerdict <;> cases hVerdict
    | scroll target x y =>
        cases hVerdict
        exact .scrolled target x y time
    | mutation address =>
        dsimp only [Settings.interpret] at hVerdict
        split at hVerdict <;> cases hVerdict
    | unload address => cases hVerdict
  · intro hPostpones
    cases hPostpones with
    | typed hGesture hOverlay hEntry =>
        rcases hGesture with rfl | rfl <;>
          exact settings.interpretChange_of_isTextEntry hOverlay
            hEntry _
    | @hovered e time hOverlay hTooltip =>
        have hShown :
            ¬ (e.inRecorderOverlay || !e.hasTooltip) = true := by
          rw [hOverlay, hTooltip]
          exact Bool.false_ne_true
        exact if_neg hShown
    | scrolled target x y time => rfl

------------------------------------------------------------
-- Keys and Actions
------------------------------------------------------------

/- The kind of the actions that wait under a key. -/
def TimerKey.kind : TimerKey → Action.Kind
  | .typing _ => .type
  | .hover => .hover
  | .scroll => .scroll

/-
  Whether an action may wait under a key: it is of its kind,
  and done to its field if it has one.
-/
structure TimerKey.Suits
    (key : TimerKey)
    (a : Action) : Prop where
  kind : a.kind = key.kind
  field :
    ∀ field, key = .typing field →
      a.selector = some field.selector ∧
        a.frames = field.frames

/- What has to settle waits where it should. -/
theorem Settings.Postpones.suits
    (hPostpones :
      settings.Postpones event key deadline action) :
    key.Suits action := by
  cases hPostpones with
  | typed hGesture hOverlay hEntry =>
      refine ⟨rfl, ?_⟩
      rintro field ⟨⟩
      exact ⟨rfl, rfl⟩
  | hovered hOverlay hTooltip => exact ⟨rfl, nofun⟩
  | scrolled target x y time =>
      exact ⟨kind_scrollDraft target time, nofun⟩

/- What a command lets wait waits where it should. -/
theorem Command.schedules_suits
    (settings : Settings)
    (command : Command) :
    command.Schedules settings TimerKey.Suits := by
  cases command with
  | handle event =>
      intro location key deadline action hVerdict
      exact (Settings.interpret_eq_settle_iff.mp hVerdict).suits
  | _ => trivial

end Capture

end Clickstream
