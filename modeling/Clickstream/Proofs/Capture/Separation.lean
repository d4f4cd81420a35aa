import Clickstream.Proofs.Capture.Chronology

/-
  Separation: which waiting actions an event leaves alone that
  lets another one wait. What was typed into other fields goes
  on waiting. But all hovering waits under one key, and so does
  all scrolling, whatever the element.

  Key definitions:
    * `Action.place`
    * `Recorder.Displaces`

  Key theorems:
    * `Recorder.waits_suits`
    * `Recorder.mem_pending_handle_iff`
-/

namespace Clickstream

/- Where an action was done. -/
def Action.place (a : Action) : Option Selector × FramePath :=
  (a.selector, a.frames)

namespace Capture

------------------------------------------------------------
-- Keys and Places
------------------------------------------------------------

namespace TimerKey

variable {key other : TimerKey}
variable {a b : Action}

/-
  Actions at different places wait under one key just if both
  are hovers or both are scrolls.
-/
theorem Suits.eq_iff_of_place_ne
    (ha : key.Suits a)
    (hb : other.Suits b)
    (hApart : a.place ≠ b.place) :
    key = other ↔
      a.kind = b.kind ∧ (b.kind = .hover ∨ b.kind = .scroll) := by
  rw [ha.kind, hb.kind]
  constructor
  · rintro rfl
    refine ⟨rfl, ?_⟩
    cases key with
    | typing field =>
        have hPlace := ha.field field rfl
        have hOther := hb.field field rfl
        exact absurd
          (Prod.ext (hPlace.1.trans hOther.1.symm)
            (hPlace.2.trans hOther.2.symm))
          hApart
    | hover => exact Or.inl rfl
    | scroll => exact Or.inr rfl
  · rintro ⟨hSame, hShared⟩
    cases other with
    | typing field =>
        rcases hShared with hNone | hNone <;> cases hNone
    | hover => cases key <;> first | rfl | cases hSame
    | scroll => cases key <;> first | rfl | cases hSame

end TimerKey

namespace Recorder

variable {settings : Settings}
variable {commands : List Command}
variable {event : Event}
variable {key : TimerKey}
variable {deadline : Nat}
variable {action : Action}
variable {p : Pending TimerKey Action}

/- What waits in a recorder waits where it should. -/
theorem waits_suits
    (settings : Settings)
    (commands : List Command) :
    ((new settings).after commands).Waits TimerKey.Suits :=
  (waits_new settings).after fun command _ =>
    command.schedules_suits settings

/-
  An event whose action has to wait leaves alone what waits for
  an action at another place, unless it takes its place: there
  is one timer for all hovering and one for all scrolling.
-/
theorem mem_pending_handle_iff
    (hPhase :
      ((new settings).after commands).phase = .recording)
    (hPostpones :
      settings.Postpones event.normalise key deadline action)
    (hPending :
      p ∈ ((new settings).after commands).timers.pending)
    (hTime : event.timestamp < p.deadline)
    (hApart : p.value.place ≠ action.place) :
    p ∈ (((new settings).after commands).handle
          event).1.timers.pending ↔
      ¬ (p.value.kind = action.kind ∧
        (action.kind = .hover ∨ action.kind = .scroll)) := by
  have hSuits := waits_suits settings commands p hPending
  have hSettings := settings_after (new settings) commands
  generalize (new settings).after commands = r at *
  have hVerdict :
      r.settings.interpret (r.poll event.timestamp).1.location
          event.normalise = .settle key deadline action := by
    rw [hSettings]
    exact Settings.interpret_eq_settle_iff.mpr hPostpones
  have hTimers :
      (r.handle event).1.timers =
        (r.timers.later event.timestamp).schedule key deadline
          action :=
    (tick_of_settle hPhase hVerdict).1
  have hLater :
      p ∈ (r.timers.later event.timestamp).pending :=
    List.mem_filter.mpr ⟨hPending, decide_eq_true hTime⟩
  have hOld :
      p ≠ ⟨key, deadline,
        (r.timers.later event.timestamp).nextTicket, action⟩ := by
    rintro rfl
    exact hApart rfl
  rw [hTimers, Timers.mem_pending_schedule_iff,
    ← hSuits.eq_iff_of_place_ne hPostpones.suits hApart]
  simp [hLater, hOld]

/-
  Whether an event lets an action wait and one is lost that
  still waited for another place.
-/
def Displaces (r : Recorder) (event : Event) : Prop :=
  ∃ key deadline action,
    r.settings.Postpones event.normalise key deadline action ∧
      ∃ p ∈ r.timers.pending,
        event.timestamp < p.deadline ∧
          p.value.place ≠ action.place ∧
            ∀ q ∈ (r.handle event).1.timers.pending,
              q.value ≠ p.value

/- A recorder behind one event. -/
def behind (event : Event) : Recorder :=
  (new {}).after [.start none 0, .handle event]

/- Something is typed. -/
def keystroke (time : Nat) : Event :=
  ⟨.gesture .input query, time⟩

/- The pointer comes to the one or the other element. -/
def glanceAtHelp (time : Nat) : Event :=
  ⟨.gesture .mouseOver helpButton, time⟩

def homeLink : Element where
  tagName := "a"
  attributes := Attributes.ofList [("title", "Home")]

def glanceAtHome (time : Nat) : Event :=
  ⟨.gesture .mouseOver homeLink, time⟩

/- One part of a page is scrolled. -/
def part (id : String) : Element where
  tagName := "div"
  attributes := Attributes.ofList [("id", id)]
  idMatchCount := 1

def scrollOf (id : String) (time : Nat) : Event :=
  ⟨.scroll (some (part id)) 0 500, time⟩

/- What was typed waits on while the pointer comes along. -/
theorem mem_pending_handle_hover :
    (behind (keystroke 100)).phase = .recording ∧
      ∃ p ∈ (behind (keystroke 100)).timers.pending,
        p.value.kind = .type ∧ p.deadline = 2100 ∧
          p ∈ ((behind (keystroke 100)).handle
            (glanceAtHelp 200)).1.timers.pending := by
  have hPhase : (behind (keystroke 100)).phase = .recording :=
    rfl
  have hPostpones :
      Settings.Postpones {} (glanceAtHelp 200).normalise .hover
        500 (helpButton.normalise.action .hover 200) :=
    .hovered rfl (by decide)
  have hPending :
      (⟨.typing ⟨Selector.name "q", []⟩, 2100, 0,
          withSomeValue (query.normalise.action .type 100)⟩ :
          Pending TimerKey Action) ∈
        (behind (keystroke 100)).timers.pending := by
    decide
  refine ⟨hPhase, _, hPending, rfl, rfl, ?_⟩
  exact
    (mem_pending_handle_iff hPhase hPostpones hPending
      (by decide) (by decide)).mpr (by decide)

/-
  A pointer that goes on to another element, and a scroll of
  another part, take the place of what waited for the first.
-/
theorem pending_displaced :
    (behind (glanceAtHelp 100)).phase = .recording ∧
      (behind (glanceAtHelp 100)).Displaces (glanceAtHome 200) ∧
      (behind (scrollOf "list" 100)).phase = .recording ∧
      (behind (scrollOf "list" 100)).Displaces
        (scrollOf "map" 150) := by
  have hHover :
      Settings.Postpones {} (glanceAtHome 200).normalise .hover
        500 (homeLink.normalise.action .hover 200) :=
    .hovered rfl (by decide)
  have hScroll :
      Settings.Postpones {} (scrollOf "map" 150).normalise
        .scroll 250
        { scrollDraft (some (part "map").normalise) 150 with
          scrollX := some 0
          scrollY := some 500 } :=
    .scrolled _ 0 500 150
  exact ⟨rfl, ⟨_, _, _, hHover, by decide⟩, rfl,
    ⟨_, _, _, hScroll, by decide⟩⟩

end Recorder

end Capture

end Clickstream
