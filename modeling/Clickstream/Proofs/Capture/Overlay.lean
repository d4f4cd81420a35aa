import Clickstream.Proofs.Capture.Run

/-
  The overlay of the recorder: what becomes of events on it.
  Clicks, changes of values and hovering are no more there than
  polls. All else is taken for what the user did to the page.

  Key definitions:
    * `Occurrence.IsNoticed`
    * `Recorder.PassesOver`

  Key theorems:
    * `Settings.interpret_of_not_isNoticed`,
      `Settings.interpret_ne_ignore`
    * `Recorder.react_eq_self_iff`
    * `Recorder.handle_eq_poll_iff`
-/

namespace Clickstream

------------------------------------------------------------
-- Events on the Overlay
------------------------------------------------------------

/-
  Whether something is made of an occurrence even where its
  element belongs to the overlay: nobody looks at that when a
  control gets or loses the focus, a key is pressed, a form is
  sent, something is dragged or the page is scrolled.
-/
def Occurrence.IsNoticed : Occurrence → Prop
  | .gesture .focus e =>
      (e.isFormField || e.hasAttr "tabindex" ||
        e.role? = some "button") = true
  | .gesture .blur e => e.isFormField = true
  | .gesture .submit _ => True
  | .gesture .dragStart _ => True
  | .gesture .drop _ => True
  | .keyDown e key modifiers =>
      Capture.isRecordableKey e key modifiers = true
  | .scroll _ _ _ => True
  | _ => False

namespace Capture

variable {settings : Settings}
variable {location : Option String}
variable {event : Event}
variable {e : Element}

theorem interpretClick_of_overlay
    (hOverlay : e.inRecorderOverlay = true)
    (clicks button timestamp : Nat) :
    interpretClick e clicks button timestamp = .ignore :=
  if_pos hOverlay

theorem Settings.interpretChange_of_overlay
    (hOverlay : e.inRecorderOverlay = true)
    (timestamp : Nat) :
    settings.interpretChange e timestamp = .ignore :=
  if_pos hOverlay

theorem Settings.interpretHover_of_overlay
    (hOverlay : e.inRecorderOverlay = true)
    (timestamp : Nat) :
    settings.interpretHover e timestamp = .ignore := by
  unfold Settings.interpretHover
  rw [hOverlay, Bool.true_or]
  rfl

/- What is not noticed on the overlay means nothing. -/
theorem Settings.interpret_of_not_isNoticed
    (hTarget : event.target? = some e)
    (hOverlay : e.inRecorderOverlay = true)
    (hNoticed : ¬ event.occurrence.IsNoticed) :
    settings.interpret location event = .ignore := by
  unfold Event.target? at hTarget
  unfold Settings.interpret
  cases hOccurrence : event.occurrence with
  | gesture gesture other =>
      rw [hOccurrence] at hTarget hNoticed
      cases hTarget
      cases gesture with
      | contextMenu => exact interpretClick_of_overlay hOverlay ..
      | input => exact interpretChange_of_overlay hOverlay _
      | change => exact interpretChange_of_overlay hOverlay _
      | focus => exact if_neg hNoticed
      | blur => exact if_neg hNoticed
      | mouseOver => exact interpretHover_of_overlay hOverlay _
      | submit => exact absurd trivial hNoticed
      | dragStart => exact absurd trivial hNoticed
      | drop => exact absurd trivial hNoticed
  | click other clicks button =>
      rw [hOccurrence] at hTarget
      cases hTarget
      exact interpretClick_of_overlay hOverlay ..
  | keyDown other key modifiers =>
      rw [hOccurrence] at hNoticed
      exact if_neg hNoticed
  | scroll target x y =>
      rw [hOccurrence] at hNoticed
      exact absurd trivial hNoticed
  | mutation address =>
      rw [hOccurrence] at hTarget
      cases hTarget
  | unload address =>
      rw [hOccurrence] at hTarget
      cases hTarget

/- What is noticed always means something. -/
theorem Settings.interpret_ne_ignore
    (hNoticed : event.occurrence.IsNoticed) :
    settings.interpret location event ≠ .ignore := by
  unfold Settings.interpret
  cases hOccurrence : event.occurrence with
  | gesture gesture e =>
      rw [hOccurrence] at hNoticed
      cases gesture with
      | focus =>
          have hVerdict :
              settings.interpretGesture .focus e
                  event.timestamp =
                .record (e.action .focus event.timestamp) :=
            if_pos hNoticed
          simp only [hVerdict]
          exact nofun
      | blur =>
          have hVerdict :
              settings.interpretGesture .blur e
                  event.timestamp =
                .record (e.action .blur event.timestamp) :=
            if_pos hNoticed
          simp only [hVerdict]
          exact nofun
      | submit => exact nofun
      | dragStart => exact nofun
      | drop => exact nofun
      | _ => exact hNoticed.elim
  | keyDown e key modifiers =>
      rw [hOccurrence] at hNoticed
      have hKey : isRecordableKey e key modifiers = true :=
        hNoticed
      dsimp only [interpretKey]
      rw [if_pos hKey]
      exact nofun
  | scroll target x y => exact nofun
  | _ =>
      rw [hOccurrence] at hNoticed
      exact hNoticed.elim

------------------------------------------------------------
-- Passing Over
------------------------------------------------------------

namespace Recorder

variable {r : Recorder}

/-
  Whether the action of an event is dropped and nothing has
  waited that it could flush.
-/
def PassesOver (r : Recorder) (event : Event) : Prop :=
  r.timers.pending = [] ∧
    ∃ action,
      r.settings.interpret r.location event =
          .record action ∧
        ¬ r.Accepts action

/- Where nothing waits, a flush does nothing. -/
theorem flush_of_pending_eq_nil
    (hEmpty : r.timers.pending = []) :
    r.flush = (r, []) := by
  rcases r with ⟨_, _, _, ⟨pending, nextTicket⟩, _⟩
  cases hEmpty
  rfl

/- An action changes nothing just if it is dropped alone. -/
theorem recordInOrder_eq_self_iff
    {action : Action} :
    r.recordInOrder action = (r, []) ↔
      r.timers.pending = [] ∧ ¬ r.Accepts action := by
  constructor
  · intro hSelf
    have hEmpty := r.pending_recordInOrder action
    rw [hSelf] at hEmpty
    refine ⟨hEmpty, ?_⟩
    intro hAccepts
    rw [recordInOrder_eq, flush_of_pending_eq_nil hEmpty,
      record_of_accepts hAccepts] at hSelf
    cases congrArg Prod.snd hSelf
  · rintro ⟨hEmpty, hAccepts⟩
    rw [recordInOrder_eq, flush_of_pending_eq_nil hEmpty,
      record_of_not_accepts hAccepts]
    rfl

/- An event on an element does not tell where the page is. -/
theorem observe_of_target
    {e : Element}
    (hTarget : event.target? = some e) :
    r.observe event = r := by
  unfold observe
  split
  · rename_i address hOccurrence
    unfold Event.target? at hTarget
    rw [hOccurrence] at hTarget
    cases hTarget
  · rfl

/-
  An event on an element changes nothing just if it means
  nothing or is passed over. What has to wait draws a ticket,
  if nothing else.
-/
theorem react_eq_self_iff
    (hTarget : event.target? = some e) :
    r.react event = (r, []) ↔
      r.settings.interpret r.location event = .ignore ∨
        r.PassesOver event := by
  unfold react PassesOver
  cases hVerdict : r.settings.interpret r.location event with
  | ignore => simp
  | settle key deadline action =>
      have hTicket :
          ({ r with
              timers := r.timers.schedule key deadline action },
            ([] : List Action)) ≠ (r, []) := by
        intro hSelf
        have hNext :=
          congrArg (fun s => s.1.timers.nextTicket) hSelf
        exact Nat.succ_ne_self _ hNext
      simpa using hTicket
  | record action =>
      rw [observe_of_target hTarget, recordInOrder_eq_self_iff]
      simp

/- An event is a poll just if it changes nothing behind it. -/
theorem handle_eq_poll_iff_react
    (hPhase : r.phase = .recording)
    (event : Event) :
    r.handle event = r.poll event.timestamp ↔
      (r.poll event.timestamp).1.react event.normalise =
        ((r.poll event.timestamp).1, []) := by
  have hPoll := r.phase_poll event.timestamp
  rw [hPhase] at hPoll
  unfold handle
  simp only [hPoll]
  rw [Prod.ext_iff, Prod.ext_iff]
  dsimp only
  rw [List.append_right_eq_self]

/-
  An event on the overlay is no more than a poll just if it is
  of a kind that is not noticed there, or if nothing waits
  behind the poll and its action is dropped as a repetition.
-/
theorem handle_eq_poll_iff
    (hPhase : r.phase = .recording)
    (hTarget : event.target? = some e)
    (hOverlay : e.inRecorderOverlay = true) :
    r.handle event = r.poll event.timestamp ↔
      ¬ event.normalise.occurrence.IsNoticed ∨
        (r.poll event.timestamp).1.PassesOver
          event.normalise := by
  have hNormal :
      event.normalise.target? = some e.normalise := by
    rw [event.target?_normalise, hTarget]
    rfl
  rw [← e.inRecorderOverlay_normalise] at hOverlay
  have hIgnored :
      (r.poll event.timestamp).1.settings.interpret
          (r.poll event.timestamp).1.location
          event.normalise = .ignore ↔
        ¬ event.normalise.occurrence.IsNoticed := by
    constructor
    · intro hIgnore hNoticed
      exact Settings.interpret_ne_ignore hNoticed hIgnore
    · exact Settings.interpret_of_not_isNoticed hNormal hOverlay
  rw [handle_eq_poll_iff_react hPhase,
    react_eq_self_iff hNormal, hIgnored]

/- A field and a button of the overlay. -/
def noteField : Element where
  tagName := "input"
  attributes := Attributes.ofList [("name", "note")]
  inRecorderOverlay := true

def stopButton : Element where
  tagName := "button"
  attributes := Attributes.ofList [("id", "rec-stop")]
  inRecorderOverlay := true

/- A recorder at work. -/
def atWork : Recorder where
  settings := {}
  phase := .recording

/- A click on the button that ends the recording is none. -/
theorem handle_eq_poll_iff_stopButton :
    atWork.phase = .recording ∧
      stopButton.inRecorderOverlay = true ∧
      atWork.handle ⟨.click stopButton 1 0, 10⟩ =
        atWork.poll 10 := by
  have hPhase : atWork.phase = .recording := rfl
  have hTarget :
      Event.target? ⟨.click stopButton 1 0, 10⟩ =
        some stopButton :=
    rfl
  have hOverlay : stopButton.inRecorderOverlay = true := rfl
  refine ⟨hPhase, hOverlay,
    (handle_eq_poll_iff hPhase hTarget hOverlay).mpr
      (Or.inl ?_)⟩
  exact id

/-
  A focus or its loss, a key, a form that is sent, something
  dragged or scrolled are recorded on the overlay, or wait.
-/
theorem overlay_noticed :
    atWork.phase = .recording ∧
      noteField.inRecorderOverlay = true ∧
      ∀ occurrence ∈
          [Occurrence.gesture .focus noteField,
            .gesture .blur noteField,
            .keyDown noteField "Enter" {},
            .gesture .submit noteField,
            .gesture .dragStart noteField,
            .gesture .drop noteField,
            .scroll (some noteField) 0 200],
        occurrence.target? = some noteField ∧
          atWork.handle ⟨occurrence, 10⟩ ≠ atWork.poll 10 := by
  simp only [List.forall_mem_cons]
  refine ⟨rfl, rfl, ⟨rfl, ?_⟩, ⟨rfl, ?_⟩, ⟨rfl, ?_⟩,
    ⟨rfl, ?_⟩, ⟨rfl, ?_⟩, ⟨rfl, ?_⟩, ⟨rfl, ?_⟩,
    List.forall_mem_nil _⟩
  all_goals decide

end Recorder

end Capture

end Clickstream
