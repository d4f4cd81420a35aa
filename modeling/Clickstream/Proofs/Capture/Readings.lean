import Clickstream.Proofs.Capture.Candidates
import Clickstream.Proofs.Capture.Secrecy

/-
  Readings: what an event tells of the state of a form control.
  An event that changes a control reads it, and so does a click
  on a box or a list. Each reading is told by one action, and
  the actions that tell no reading are of other kinds.

  Key definitions:
    * `ControlKind`, `Control`
    * `Reading`, `Element.reading`
    * `Event.reading?`, `Command.reading?`, `lastReading?`
    * `Reading.IsToldBy`, `Reading.IsCarriedBy`
    * `Candidate.IsSilent`

  Key theorems:
    * `Element.isToldBy_draft`
    * `exists_of_lastReading?_eq_some`
    * `exists_interpret_eq_verdict`
    * `offers_isSilent_interpret`
-/

namespace Clickstream

------------------------------------------------------------
-- Controls
------------------------------------------------------------

namespace Capture

/- The kinds of control whose state is recorded. -/
inductive ControlKind where
  | entry
  | box
  | choice
deriving DecidableEq

/- The kind of the actions that record the state. -/
def ControlKind.actionKind : ControlKind → Action.Kind
  | entry => .type
  | box => .check
  | choice => .select

/- The kinds of all actions that record a state. -/
def stateKinds : List Action.Kind :=
  [.type, .check, .select]

theorem ControlKind.actionKind_mem (kind : ControlKind) :
    kind.actionKind ∈ stateKinds := by
  cases kind <;> decide

/- A control across events. -/
@[ext]
structure Control where
  field : Field
  kind : ControlKind
deriving DecidableEq

/- Where the readings of a control wait, if they have to. -/
def Control.timer? (control : Control) : Option TimerKey :=
  match control.kind with
  | .entry => some (.typing control.field)
  | .box => none
  | .choice => none

/-
  The state of a control at some time. Only boxes are checked
  or not, and what one types is a text; whether the control
  takes passwords matters, as they are not recorded.
-/
structure Reading where
  control : Control
  value : Option Action.Value
  checked : Option Bool
  isPassword : Bool
  timestamp : Nat
  isText :
    control.kind = .entry → ∃ text, value = some (.text text)
  isUnchecked : control.kind ≠ .box → checked = none
deriving DecidableEq

end Capture

namespace Element

open Capture

/- Which kind of control an element is, if it is one. -/
def controlKind? (e : Element) : Option ControlKind :=
  if e.isSelect then some .choice
  else if e.isCheckable then some .box
  else if e.isTextEntry then some .entry
  else none

/- What an element holds. Nothing typed is an empty text. -/
def held
    (e : Element) : ControlKind → Option Action.Value
  | .entry => some (.text (e.form.value.getD ""))
  | .box => e.currentValue?
  | .choice => e.choice?

/- The state of an element. -/
def reading
    (e : Element)
    (kind : ControlKind)
    (timestamp : Nat) : Reading where
  control := ⟨e.field, kind⟩
  value := e.held kind
  checked := if kind = .box then e.form.checked else none
  isPassword := e.isPassword
  timestamp := timestamp
  isText hKind := by
    dsimp only at hKind
    subst hKind
    exact ⟨_, rfl⟩
  isUnchecked hKind := if_neg hKind

end Element

namespace Capture

/- What an event that changes an element reads. -/
def readingOfChange?
    (e : Element)
    (timestamp : Nat) : Option Reading :=
  if e.inRecorderOverlay then none
  else e.controlKind?.map fun kind => e.reading kind timestamp

/- What a click reads: a box or a list that it acts upon. -/
def readingOfClick?
    (e : Element)
    (clicks button timestamp : Nat) : Option Reading :=
  if e.inRecorderOverlay then none
  else
    match clickKind e clicks button with
    | .check => some (e.reading .box timestamp)
    | .select => some (e.reading .choice timestamp)
    | _ => none

end Capture

/- What an event in normal form reads. -/
def Event.reading? (event : Event) : Option Capture.Reading :=
  match event.occurrence with
  | .gesture .input e =>
      Capture.readingOfChange? e event.timestamp
  | .gesture .change e =>
      Capture.readingOfChange? e event.timestamp
  | .click e clicks button =>
      Capture.readingOfClick? e clicks button event.timestamp
  | _ => none

namespace Capture

/- What a command reads. -/
def Command.reading? : Command → Option Reading
  | handle event => event.normalise.reading?
  | _ => none

/- The last reading of a control in a run. -/
def lastReading?
    (control : Control) : List Command → Option Reading
  | [] => none
  | command :: rest =>
      (lastReading? control rest).or
        (command.reading?.filter
          (fun reading => reading.control = control))

/- Behind the last reading of a control it is not read. -/
theorem control_ne_of_lastReading?_eq_none
    {control : Control}
    {commands : List Command}
    (hNone : lastReading? control commands = none) :
    ∀ command ∈ commands, ∀ reading,
      command.reading? = some reading →
        reading.control ≠ control := by
  induction commands with
  | nil => simp
  | cons first commands ih =>
      rcases Option.or_eq_none_iff.mp hNone with
        ⟨hRest, hFirst⟩
      intro command hCommand reading hReading
      rcases List.mem_cons.mp hCommand with rfl | hLater
      · rw [hReading] at hFirst
        simpa using hFirst
      · exact ih hRest command hLater reading hReading

/- The last reading of a control comes from some event. -/
theorem exists_of_lastReading?_eq_some
    {control : Control}
    {commands : List Command}
    {reading : Reading}
    (hLast : lastReading? control commands = some reading) :
    ∃ before event rest,
      commands = before ++ .handle event :: rest ∧
        event.normalise.reading? = some reading ∧
        reading.control = control ∧
        ∀ command ∈ rest, ∀ other,
          command.reading? = some other →
            other.control ≠ control := by
  induction commands with
  | nil => cases hLast
  | cons first commands ih =>
      rcases Option.or_eq_some_iff.mp hLast with
        hRest | ⟨hNone, hFirst⟩
      · rcases ih hRest with
          ⟨before, event, rest, rfl, hReading, hLater⟩
        exact ⟨first :: before, event, rest, rfl, hReading,
          hLater⟩
      · rcases Option.filter_eq_some_iff.mp hFirst with
          ⟨hReading, hControl⟩
        cases first with
        | handle event =>
            exact ⟨[], event, commands, rfl, hReading,
              of_decide_eq_true hControl,
              control_ne_of_lastReading?_eq_none hNone⟩
        | _ => cases hReading

end Capture

------------------------------------------------------------
-- Telling
------------------------------------------------------------

/- Whether an action is about the state of a control. -/
structure Action.IsOn
    (a : Action)
    (control : Capture.Control) : Prop where
  kind : a.kind = control.kind.actionKind
  selector : a.selector = some control.field.selector
  frames : a.frames = control.field.frames

theorem Action.isOn_iff
    {a : Action}
    {control : Capture.Control} :
    a.IsOn control ↔
      a.kind = control.kind.actionKind ∧
        a.selector = some control.field.selector ∧
        a.frames = control.field.frames :=
  ⟨fun h => ⟨h.kind, h.selector, h.frames⟩,
    fun h => ⟨h.1, h.2.1, h.2.2⟩⟩

instance
    (a : Action)
    (control : Capture.Control) :
    Decidable (a.IsOn control) :=
  decidable_of_iff _ Action.isOn_iff.symm

/- An action is about one control at most. -/
theorem Action.IsOn.unique
    {a : Action}
    {control other : Capture.Control}
    (hOn : a.IsOn control)
    (hOther : a.IsOn other) :
    control = other := by
  have hKind := hOn.kind.symm.trans hOther.kind
  have hSelector := hOn.selector.symm.trans hOther.selector
  have hFrames := hOn.frames.symm.trans hOther.frames
  rcases control with ⟨⟨selector, frames⟩, kind⟩
  rcases other with ⟨⟨otherSelector, otherFrames⟩, otherKind⟩
  cases hSelector
  cases hFrames
  cases kind <;> cases otherKind <;>
    first | rfl | cases hKind

/- Actions on one target are about the same control. -/
theorem Action.IsOn.of_sameTarget
    {a b : Action}
    {control : Capture.Control}
    (hOn : a.IsOn control)
    (hSame : b.SameTarget a) :
    b.IsOn control where
  kind := hSame.1.trans hOn.kind
  selector := hSame.2.1.trans hOn.selector
  frames := hSame.2.2.1.trans hOn.frames

/- Sanitising does not change what an action is about. -/
theorem Capture.Settings.isOn_sanitise
    (settings : Settings)
    {a : Action}
    {control : Control} :
    (settings.sanitise a).IsOn control ↔ a.IsOn control := by
  rw [Action.isOn_iff, Action.isOn_iff]
  rfl

namespace Capture

/- Whether an action tells a reading, before it is sanitised. -/
structure Reading.IsToldBy
    (reading : Reading)
    (a : Action) : Prop where
  isOn : a.IsOn reading.control
  value : a.value = reading.value
  checked : a.checked = reading.checked
  isPassword : a.isPassword = reading.isPassword
  timestamp : a.timestamp = reading.timestamp

/- Whether a recorded action carries a reading. -/
structure Reading.IsCarriedBy
    (settings : Settings)
    (reading : Reading)
    (seen : Action) : Prop where
  value :
    seen.value =
      reading.value.map
        (settings.sanitiseValue reading.isPassword false)
  checked : seen.checked = reading.checked

/- What is recorded of an action carries what it tells. -/
theorem Reading.IsToldBy.isCarriedBy
    {reading : Reading}
    {a : Action}
    (settings : Settings)
    (hTold : reading.IsToldBy a) :
    reading.IsCarriedBy settings (settings.sanitise a) where
  value := by
    have hKind : a.kind ≠ .upload := by
      rw [hTold.isOn.kind]
      cases reading.control.kind <;> decide
    unfold Settings.sanitise
    dsimp only
    rw [hTold.value, hTold.isPassword,
      decide_eq_false hKind]
  checked := hTold.checked

end Capture

------------------------------------------------------------
-- Drafts of Readings
------------------------------------------------------------

namespace Element

open Capture

variable {e : Element}

/- The action made of an element that is read. -/
def draft
    (e : Element)
    (kind : ControlKind)
    (timestamp : Nat) : Action :=
  match kind with
  | .entry => withSomeValue (e.action .type timestamp)
  | .box => e.action .check timestamp
  | .choice => e.action .select timestamp

/- An input is no list to choose from. -/
theorem isSelect_of_isCheckable
    (hCheckable : e.isCheckable = true) :
    e.isSelect = false := by
  unfold isCheckable hasInputType at hCheckable
  split at hCheckable
  · rename_i type hType
    exact isSelect_of_inputType? hType
  · cases hCheckable

/- What one types into holds its text. -/
theorem currentValue?_of_isTextEntry
    (hEntry : e.isTextEntry = true) :
    e.currentValue? = e.formText? := by
  unfold currentValue?
  rw [isSelect_of_isTextEntry hEntry,
    if_neg Bool.false_ne_true]
  rcases isTextEntry_cases hEntry with
    ⟨hTag, hType⟩ | ⟨type, hType, hTyped⟩
  · have hArea : e.hasTag ["textarea"] = true := by
      unfold hasTag
      rw [hTag]
      rfl
    rw [hType]
    exact if_pos hArea
  · rw [hType]
    split
    · rename_i hSame
      cases hSame
      exact absurd (by decide) hTyped
    · rename_i hSame
      cases hSame
      exact absurd (by decide) hTyped
    · rename_i hSame
      cases hSame
      exact absurd (by decide) hTyped
    · rfl
    · rename_i hSame
      cases hSame

/- Whether an element is a control of a kind. -/
def IsControl (e : Element) : ControlKind → Prop
  | .entry => e.isTextEntry = true
  | .box => e.isCheckable = true
  | .choice => e.isSelect = true

/- The kinds of control exclude one another. -/
theorem controlKind?_eq_some_iff
    {kind : ControlKind} :
    e.controlKind? = some kind ↔ e.IsControl kind := by
  unfold controlKind?
  constructor
  · intro hKind
    split at hKind
    · rename_i hSelect
      cases hKind
      exact hSelect
    split at hKind
    · rename_i hCheckable
      cases hKind
      exact hCheckable
    split at hKind
    · rename_i hEntry
      cases hKind
      exact hEntry
    · cases hKind
  · intro hControl
    cases kind with
    | choice => exact if_pos hControl
    | box =>
        have hSelect := isSelect_of_isCheckable hControl
        rw [hSelect, if_neg Bool.false_ne_true]
        exact if_pos hControl
    | entry =>
        have hSelect := isSelect_of_isTextEntry hControl
        have hCheckable := isCheckable_of_isTextEntry hControl
        rw [hSelect, if_neg Bool.false_ne_true, hCheckable,
          if_neg Bool.false_ne_true]
        exact if_pos hControl

/- An element that is read is told by its draft. -/
theorem isToldBy_draft
    {kind : ControlKind}
    (hControl : e.IsControl kind)
    (timestamp : Nat) :
    (e.reading kind timestamp).IsToldBy
      (e.draft kind timestamp) := by
  have hPassword := fun kind =>
    e.isPassword_action kind timestamp
  have hUnchecked :
      e.isCheckable = false →
        (if e.isCheckable then e.form.checked else none) =
          none := by
    intro hCheckable
    rw [hCheckable, if_neg Bool.false_ne_true]
  cases kind with
  | choice =>
      have hCheckable : e.isCheckable = false := by
        rw [← Bool.not_eq_true]
        intro hCheckable
        have hSelect := isSelect_of_isCheckable hCheckable
        cases hSelect.symm.trans hControl
      exact ⟨⟨rfl, rfl, rfl⟩, if_pos hControl,
        hUnchecked hCheckable, hPassword .select, rfl⟩
  | box =>
      exact ⟨⟨rfl, rfl, rfl⟩, rfl, if_pos hControl,
        hPassword .check, rfl⟩
  | entry =>
      have hCheckable := isCheckable_of_isTextEntry hControl
      have hValue :
          some (e.currentValue?.getD (.text "")) =
            some (.text (e.form.value.getD "")) := by
        rw [currentValue?_of_isTextEntry hControl]
        unfold formText?
        cases e.form.value <;> rfl
      exact ⟨⟨rfl, rfl, rfl⟩, hValue, hUnchecked hCheckable,
        hPassword .type, rfl⟩

end Element

------------------------------------------------------------
-- Verdicts on Readings
------------------------------------------------------------

namespace Capture

variable {settings : Settings}
variable {e : Element}
variable {timestamp clicks button : Nat}
variable {reading : Reading}

/- What becomes of the draft of a reading. -/
def Reading.verdict
    (settings : Settings)
    (reading : Reading)
    (draft : Action) : Verdict :=
  match reading.control.timer? with
  | some key =>
      .settle key
        (clockAfter reading.timestamp settings.typeDelay) draft
  | none => .record draft

theorem exists_interpretChange_eq_verdict
    (hReading :
      readingOfChange? e timestamp = some reading) :
    ∃ draft,
      reading.IsToldBy draft ∧
        settings.interpretChange e timestamp =
          reading.verdict settings draft := by
  unfold readingOfChange? at hReading
  split at hReading
  · cases hReading
  rename_i hOverlay
  rcases Option.map_eq_some_iff.mp hReading with
    ⟨kind, hKind, rfl⟩
  have hControl := Element.controlKind?_eq_some_iff.mp hKind
  refine ⟨e.draft kind timestamp,
    Element.isToldBy_draft hControl timestamp, ?_⟩
  cases kind with
  | choice =>
      unfold Settings.interpretChange
      rw [if_neg hOverlay]
      exact if_pos hControl
  | box =>
      have hSelect := Element.isSelect_of_isCheckable hControl
      unfold Settings.interpretChange
      rw [if_neg hOverlay, hSelect, if_neg Bool.false_ne_true]
      exact if_pos hControl
  | entry =>
      exact settings.interpretChange_of_isTextEntry
        (Bool.eq_false_iff.mpr hOverlay) hControl timestamp

/- A click checks boxes and chooses from lists only. -/
theorem isControl_of_clickKind_eq
    {kind : ControlKind}
    (hKind : clickKind e clicks button = kind.actionKind) :
    e.IsControl kind := by
  unfold clickKind at hKind
  split at hKind
  · cases kind <;> cases hKind
  split at hKind
  · cases kind <;> cases hKind
  split at hKind
  · cases kind <;> cases hKind
  split at hKind
  · rename_i hCheckable
    cases kind with
    | box => exact hCheckable
    | _ => cases hKind
  split at hKind
  · cases kind <;> cases hKind
  split at hKind
  · rename_i hSelect
    cases kind with
    | choice => exact hSelect
    | _ => cases hKind
  · cases kind <;> cases hKind

/- A click on a box or a list is recorded, seen or not. -/
theorem interpretClick_of_clickKind_eq
    {kind : Action.Kind}
    (hOverlay : ¬ e.inRecorderOverlay = true)
    (hKind : clickKind e clicks button = kind)
    (hLive : needsLiveElement kind = false) :
    interpretClick e clicks button timestamp =
      .record (e.action kind timestamp) := by
  unfold interpretClick
  dsimp only
  rw [hKind, hLive, if_neg hOverlay, Bool.false_and,
    if_neg Bool.false_ne_true]

theorem exists_interpretClick_eq_verdict
    (settings : Settings)
    (hReading :
      readingOfClick? e clicks button timestamp =
        some reading) :
    ∃ draft,
      reading.IsToldBy draft ∧
        interpretClick e clicks button timestamp =
          reading.verdict settings draft := by
  unfold readingOfClick? at hReading
  split at hReading
  · cases hReading
  rename_i hOverlay
  split at hReading
  · rename_i hKind
    cases hReading
    have hBox : e.IsControl .box :=
      isControl_of_clickKind_eq hKind
    exact ⟨e.draft .box timestamp,
      Element.isToldBy_draft hBox timestamp,
      interpretClick_of_clickKind_eq hOverlay hKind rfl⟩
  · rename_i hKind
    cases hReading
    have hChoice : e.IsControl .choice :=
      isControl_of_clickKind_eq hKind
    exact ⟨e.draft .choice timestamp,
      Element.isToldBy_draft hChoice timestamp,
      interpretClick_of_clickKind_eq hOverlay hKind rfl⟩
  · cases hReading

/- What an event reads is told by what becomes of it. -/
theorem exists_interpret_eq_verdict
    (settings : Settings)
    (location : Option String)
    {event : Event}
    (hReading : event.reading? = some reading) :
    ∃ draft,
      reading.IsToldBy draft ∧
        settings.interpret location event =
          reading.verdict settings draft := by
  unfold Event.reading? at hReading
  unfold Settings.interpret
  split at hReading
  · rename_i e hOccurrence
    rw [hOccurrence]
    exact exists_interpretChange_eq_verdict hReading
  · rename_i e hOccurrence
    rw [hOccurrence]
    exact exists_interpretChange_eq_verdict hReading
  · rename_i e clicks button hOccurrence
    rw [hOccurrence]
    exact exists_interpretClick_eq_verdict settings hReading
  · cases hReading

------------------------------------------------------------
-- Silence
------------------------------------------------------------

/-
  Whether a candidate tells no reading: its action is of
  another kind, and it waits for nothing that was typed.
-/
structure Candidate.IsSilent (candidate : Candidate) : Prop where
  kind : candidate.action.kind ∉ stateKinds
  waited :
    ∀ field, candidate.waited ≠ some (.typing field)

theorem Verdict.offers_ite
    {P : Candidate → Prop}
    {c : Prop}
    [Decidable c]
    {v w : Verdict}
    (hv : v.Offers P)
    (hw : w.Offers P) :
    (if c then v else w).Offers P := by
  split
  · exact hv
  · exact hw

/- An action of another kind that need not wait is silent. -/
theorem offers_isSilent_record
    (kind : Action.Kind)
    {a : Action}
    (hSame : a.kind = kind)
    (hKind : kind ∉ stateKinds) :
    (Verdict.record a).Offers Candidate.IsSilent :=
  ⟨hSame ▸ hKind, fun _ h => nomatch h⟩

theorem clickKind_ne_type :
    clickKind e clicks button ≠ .type := by
  intro hKind
  have hMem := clickKind_mem e clicks button
  rw [hKind] at hMem
  exact absurd hMem (by decide)

theorem offers_isSilent_interpretClick
    (hReading :
      readingOfClick? e clicks button timestamp = none) :
    (interpretClick e clicks button timestamp).Offers
      Candidate.IsSilent := by
  unfold readingOfClick? at hReading
  unfold interpretClick
  dsimp only
  split
  · trivial
  rename_i hOverlay
  rw [if_neg hOverlay] at hReading
  have hKind : clickKind e clicks button ∉ stateKinds := by
    intro hMem
    simp only [stateKinds, List.mem_cons, clickKind_ne_type,
      List.not_mem_nil, false_or, or_false] at hMem
    rcases hMem with hCheck | hSelect
    · rw [hCheck] at hReading
      cases hReading
    · rw [hSelect] at hReading
      cases hReading
  exact Verdict.offers_ite trivial
    (offers_isSilent_record _ rfl hKind)

theorem offers_isSilent_interpretChange
    (settings : Settings)
    (hReading : readingOfChange? e timestamp = none) :
    (settings.interpretChange e timestamp).Offers
      Candidate.IsSilent := by
  have hNone :
      ¬ e.inRecorderOverlay = true →
        ∀ kind, ¬ e.IsControl kind := by
    intro hOverlay kind hControl
    unfold readingOfChange? at hReading
    rw [if_neg hOverlay,
      Element.controlKind?_eq_some_iff.mpr hControl] at hReading
    cases hReading
  unfold Settings.interpretChange
  split
  · trivial
  rename_i hOverlay
  have hOther := hNone hOverlay
  have hSelect : ¬ e.isSelect = true := hOther .choice
  have hCheckable : ¬ e.isCheckable = true := hOther .box
  have hEntry : ¬ e.isTextEntry = true := hOther .entry
  rw [if_neg hSelect, if_neg hCheckable, if_neg hEntry]
  exact Verdict.offers_ite
    (offers_isSilent_record .upload rfl (by decide)) trivial

theorem offers_isSilent_interpretGesture
    (settings : Settings)
    (gesture : Gesture)
    (hReading :
      gesture = .input ∨ gesture = .change →
        readingOfChange? e timestamp = none) :
    (settings.interpretGesture gesture e timestamp).Offers
      Candidate.IsSilent := by
  cases gesture with
  | contextMenu =>
      apply offers_isSilent_interpretClick
      unfold readingOfClick? clickKind
      split <;> rfl
  | input =>
      exact offers_isSilent_interpretChange settings
        (hReading (Or.inl rfl))
  | change =>
      exact offers_isSilent_interpretChange settings
        (hReading (Or.inr rfl))
  | focus =>
      exact Verdict.offers_ite
        (offers_isSilent_record .focus rfl (by decide)) trivial
  | blur =>
      exact Verdict.offers_ite
        (offers_isSilent_record .blur rfl (by decide)) trivial
  | mouseOver =>
      have hKind : Action.Kind.hover ∉ stateKinds := by decide
      exact Verdict.offers_ite trivial
        ⟨hKind, fun _ h => nomatch h⟩
  | submit =>
      exact offers_isSilent_record .submit rfl (by decide)
  | dragStart =>
      exact offers_isSilent_record .dragStart rfl (by decide)
  | drop => exact offers_isSilent_record .drop rfl (by decide)

/- An event that reads nothing has no state to tell. -/
theorem offers_isSilent_interpret
    (settings : Settings)
    (location : Option String)
    {event : Event}
    (hReading : event.reading? = none) :
    (settings.interpret location event).Offers
      Candidate.IsSilent := by
  unfold Event.reading? at hReading
  unfold Settings.interpret
  cases hOccurrence : event.occurrence with
  | gesture gesture e =>
      rw [hOccurrence] at hReading
      apply offers_isSilent_interpretGesture
      rintro (rfl | rfl) <;> exact hReading
  | click e clicks button =>
      rw [hOccurrence] at hReading
      exact offers_isSilent_interpretClick hReading
  | keyDown e key modifiers =>
      exact Verdict.offers_ite
        (offers_isSilent_record .keypress rfl (by decide))
        trivial
  | scroll target x y =>
      have hKind :
          (scrollDraft target event.timestamp).kind ∉
            stateKinds := by
        rw [kind_scrollDraft]
        decide
      exact ⟨hKind, fun _ h => nomatch h⟩
  | mutation address =>
      exact Verdict.offers_ite trivial
        (offers_isSilent_record .navigate rfl (by decide))
  | unload address =>
      exact offers_isSilent_record .navigate rfl (by decide)

end Capture

end Clickstream
