import Mathlib.Data.List.Chain
import Clickstream.Proofs.Capture.LastState
import Clickstream.Proofs.Capture.Chronology

/-
  Bursts: a field is typed into again and again, each time
  before the last text has settled. Whatever else happens
  meanwhile, so long as it is passed over or waits under other
  keys, the burst comes up once, with its last text. If
  nothing was recorded of the field before, it is recorded.

  Key definitions:
    * `Event.typed?`, `strokes`
    * `Timers.Awaits`
    * `Recorder.IsBurst`
    * `Recorder.IsNewTo`

  Key theorems:
    * `Timers.Awaits.due_or_later`
    * `Recorder.comesUp_of_isBurst`
    * `Recorder.IsNewTo.judgeAll`
    * `Recorder.exists_recorded_of_isBurst`
-/

namespace Clickstream

namespace Capture

/- What is typed if an element is changed that is a field. -/
def textOfChange?
    (field : Field)
    (e : Element)
    (timestamp : Nat) : Option Reading :=
  if e.inRecorderOverlay = false ∧ e.isTextEntry = true ∧
      e.field = field then
    some (e.reading .entry timestamp)
  else none

end Capture

/- What an event types into a field, if it does. -/
def Event.typed?
    (field : Capture.Field)
    (event : Event) : Option Capture.Reading :=
  match event.normalise.occurrence with
  | .gesture .input e =>
      Capture.textOfChange? field e event.timestamp
  | .gesture .change e =>
      Capture.textOfChange? field e event.timestamp
  | _ => none

namespace Capture

/- All that is typed into a field, in order. -/
def strokes
    (field : Field)
    (events : List Event) : List Reading :=
  events.filterMap (Event.typed? field)

variable {settings : Settings}
variable {field : Field}
variable {event : Event}
variable {reading : Reading}

theorem exists_interpretChange_of_textOfChange?
    {e : Element}
    {timestamp : Nat}
    (settings : Settings)
    (hTyped :
      textOfChange? field e timestamp = some reading) :
    ∃ draft,
      reading.IsToldBy draft ∧
        settings.interpretChange e timestamp =
          .settle (.typing field)
            (clockAfter reading.timestamp settings.typeDelay)
            draft := by
  unfold textOfChange? at hTyped
  split at hTyped
  · rename_i hField
    rcases hField with ⟨hOverlay, hEntry, rfl⟩
    cases hTyped
    have hControl : e.IsControl .entry := hEntry
    exact ⟨e.draft .entry timestamp,
      Element.isToldBy_draft hControl timestamp,
      settings.interpretChange_of_isTextEntry hOverlay hEntry
        timestamp⟩
  · cases hTyped

/- What is typed has to settle, and tells what was typed. -/
theorem exists_interpret_of_typed?
    (settings : Settings)
    (location : Option String)
    (hTyped : event.typed? field = some reading) :
    ∃ draft,
      reading.IsToldBy draft ∧
        settings.interpret location event.normalise =
          .settle (.typing field)
            (clockAfter reading.timestamp settings.typeDelay)
            draft := by
  unfold Event.typed? at hTyped
  unfold Settings.interpret
  split at hTyped
  · rename_i e hOccurrence
    rw [hOccurrence]
    exact exists_interpretChange_of_textOfChange? settings hTyped
  · rename_i e hOccurrence
    rw [hOccurrence]
    exact exists_interpretChange_of_textOfChange? settings hTyped
  · cases hTyped

/- A field is read when it is typed into. -/
theorem timestamp_of_typed?
    (hTyped : event.typed? field = some reading) :
    reading.timestamp = event.timestamp := by
  rcases exists_interpret_of_typed? {} none hTyped with
    ⟨draft, hTold, hVerdict⟩
  have hTime :=
    (timestamp_interpret {} none event.normalise).of_settle
      hVerdict
  exact hTold.timestamp.symm.trans hTime

/- What is typed later in a run happens later. -/
theorem exists_of_mem_strokes
    {events : List Event}
    (hStroke : reading ∈ strokes field events) :
    ∃ event ∈ events,
      reading.timestamp = event.timestamp := by
  rcases List.mem_filterMap.mp hStroke with
    ⟨event, hEvent, hTyped⟩
  exact ⟨event, hEvent, timestamp_of_typed? hTyped⟩

theorem strokes_cons_of_none
    {events : List Event}
    (hTyped : event.typed? field = none) :
    strokes field (event :: events) = strokes field events :=
  List.filterMap_cons_none hTyped

theorem strokes_cons_of_some
    {events : List Event}
    (hTyped : event.typed? field = some reading) :
    strokes field (event :: events) =
      reading :: strokes field events :=
  List.filterMap_cons_some hTyped

theorem strokes_subset_cons
    (event : Event)
    (events : List Event) :
    strokes field events ⊆ strokes field (event :: events) :=
  ((List.sublist_cons_self event events).filterMap _).subset

/- What is typed last in a run is typed latest. -/
theorem timestamp_le_of_getLast?_strokes
    {events : List Event}
    {last : Reading}
    (hOrdered :
      events.Pairwise (fun a b => a.timestamp ≤ b.timestamp))
    (hLast : (strokes field events).getLast? = some last)
    (hStroke : reading ∈ strokes field events) :
    reading.timestamp ≤ last.timestamp := by
  have hStrokes :
      (strokes field events).Pairwise
        (fun a b => a.timestamp ≤ b.timestamp) := by
    refine List.pairwise_filterMap.mpr (hOrdered.imp ?_)
    intro a b hOrder first hFirst second hSecond
    rw [timestamp_of_typed? hFirst, timestamp_of_typed? hSecond]
    exact hOrder
  rcases List.getLast?_eq_some_iff.mp hLast with
    ⟨before, hBefore⟩
  rw [hBefore] at hStrokes hStroke
  rcases List.mem_append.mp hStroke with hOld | hNew
  · exact (List.pairwise_append.mp hStrokes).2.2 reading hOld
      last List.mem_cons_self
  · rw [List.mem_singleton.mp hNew]

------------------------------------------------------------
-- What a Field Awaits
------------------------------------------------------------

/- The candidates that waited under a key. -/
def firing
    (key : TimerKey)
    (candidates : List Candidate) : List Candidate :=
  candidates.filter (fun c => c.waited = some key)

theorem firing_append
    (key : TimerKey)
    (first second : List Candidate) :
    firing key (first ++ second) =
      firing key first ++ firing key second :=
  List.filter_append ..

theorem firing_map_candidate
    (key : TimerKey)
    (items : List (Pending TimerKey Action)) :
    firing key (items.map Pending.candidate) =
      (items.filter (fun p => p.key = key)).map
        Pending.candidate := by
  unfold firing
  rw [List.filter_map]
  congr 1
  apply List.filter_congr
  intro p _
  exact decide_eq_decide.mpr Option.some_inj

/-
  Whether what waits for a field is a reading of it, until its
  delay is over, or nothing.
-/
def Timers.Awaits
    (settings : Settings)
    (field : Field)
    (t : Timers TimerKey Action) : Option Reading → Prop
  | none => t.under (.typing field) = []
  | some reading =>
      ∃ p,
        t.under (.typing field) = [p] ∧
          reading.IsToldBy p.value ∧
          p.deadline = reading.timestamp + settings.typeDelay

/- Whether candidates tell a reading, once, or are none. -/
def ComesUp : Option Reading → List Candidate → Prop
  | none, candidates => candidates = []
  | some reading, candidates =>
      ∃ candidate,
        candidates = [candidate] ∧
          reading.IsToldBy candidate.action

variable {t : Timers TimerKey Action}
variable {awaited : Option Reading}

theorem Timers.Awaits.of_under
    {u : Timers TimerKey Action}
    (hAwaits : t.Awaits settings field awaited)
    (hUnder :
      u.under (.typing field) = t.under (.typing field)) :
    u.Awaits settings field awaited := by
  cases awaited with
  | none => exact hUnder.trans hAwaits
  | some reading =>
      rcases hAwaits with ⟨p, hAlone, hReading⟩
      exact ⟨p, hUnder.trans hAlone, hReading⟩

/- What a field awaits waits on, or it comes up when due. -/
theorem Timers.Awaits.due_or_later
    (hAwaits : t.Awaits settings field awaited)
    (now : Nat) :
    ((∀ reading,
          awaited = some reading →
            now < reading.timestamp + settings.typeDelay) ∧
        firing (.typing field)
            ((t.due now).map Pending.candidate) = [] ∧
          (t.later now).Awaits settings field awaited) ∨
      ∃ reading,
        awaited = some reading ∧
          reading.timestamp + settings.typeDelay ≤ now ∧
          ComesUp awaited
            (firing (.typing field)
              ((t.due now).map Pending.candidate)) ∧
          (t.later now).Awaits settings field none := by
  have hPerm := t.perm_under (.typing field) now
  rw [firing_map_candidate]
  cases awaited with
  | none =>
      have hNone : t.under (.typing field) = [] := hAwaits
      rw [hNone] at hPerm
      rcases List.append_eq_nil_iff.mp hPerm.eq_nil with
        ⟨hDue, hLater⟩
      rw [hDue]
      exact Or.inl ⟨(fun _ hSome => nomatch hSome), rfl, hLater⟩
  | some reading =>
      rcases hAwaits with ⟨p, hAlone, hTold, hDeadline⟩
      rw [hAlone] at hPerm
      rcases List.append_eq_singleton_iff.mp
          (List.perm_singleton.mp hPerm) with
        ⟨hDue, hLater⟩ | ⟨hDue, hLater⟩
      · have hStays :
            p ∈ (t.later now).under (.typing field) := by
          rw [hLater]
          exact List.mem_singleton_self p
        have hTime := of_decide_eq_true
          (List.mem_filter.mp (List.mem_filter.mp hStays).1).2
        rw [hDeadline] at hTime
        rw [hDue]
        refine Or.inl ⟨?_, rfl, p, hLater, hTold, hDeadline⟩
        rintro _ ⟨⟩
        exact hTime
      · have hFires :
            p ∈ (t.due now).filter
              (fun p => p.key = .typing field) := by
          rw [hDue]
          exact List.mem_singleton_self p
        have hTime :=
          (mem_due_iff.mp (List.mem_filter.mp hFires).1).2
        rw [hDeadline] at hTime
        rw [hDue]
        exact Or.inr ⟨reading, rfl, hTime,
          ⟨p.candidate, rfl, hTold⟩, hLater⟩

------------------------------------------------------------
-- Bursts
------------------------------------------------------------

/- Whether an event is passed over or waits elsewhere. -/
def Verdict.Spares (key : TimerKey) : Verdict → Prop
  | .ignore => True
  | .record _ => False
  | .settle other _ _ => other ≠ key

instance (key : TimerKey) :
    ∀ verdict : Verdict, Decidable (verdict.Spares key)
  | .ignore => inferInstanceAs (Decidable True)
  | .record _ => inferInstanceAs (Decidable False)
  | .settle other _ _ =>
      inferInstanceAs (Decidable (other ≠ key))

/- Whether each reading comes before the last one settles. -/
def IsDense
    (settings : Settings)
    (readings : List Reading) : Prop :=
  readings.IsChain
    (fun a b => b.timestamp < a.timestamp + settings.typeDelay)

/- Once a reading is due a burst goes on no longer. -/
theorem strokes_eq_nil_of_due
    {events : List Event}
    {first : Reading}
    (hOrdered :
      (event :: events).Pairwise
        (fun a b => a.timestamp ≤ b.timestamp))
    (hDense :
      IsDense settings
        (first :: strokes field (event :: events)))
    (hDue :
      first.timestamp + settings.typeDelay ≤
        event.timestamp) :
    strokes field (event :: events) = [] := by
  cases hStrokes : strokes field (event :: events) with
  | nil => rfl
  | cons next rest =>
      rw [hStrokes] at hDense
      have hNext := (List.isChain_cons_cons.mp hDense).1
      have hMem : next ∈ strokes field (event :: events) := by
        rw [hStrokes]
        exact List.mem_cons_self
      rcases exists_of_mem_strokes hMem with
        ⟨other, hOther, hTime⟩
      have hLater : event.timestamp ≤ other.timestamp := by
        rcases List.mem_cons.mp hOther with rfl | hRest
        · exact Nat.le_refl _
        · exact (List.pairwise_cons.mp hOrdered).1 other hRest
      omega

namespace Recorder

variable {r s : Recorder}
variable {events : List Event}
variable {key : TimerKey}
variable {now : Nat}

/- What becomes of an event, behind what is due by then. -/
def verdict (r : Recorder) (event : Event) : Verdict :=
  r.settings.interpret (r.poll event.timestamp).1.location
    event.normalise

/-
  Whether all events that type nothing into a field spare it,
  each in the state in which it is taken.
-/
def SparesField
    (r : Recorder)
    (field : Field) : List Event → Prop
  | [] => True
  | event :: rest =>
      (event.typed? field = none →
          (r.verdict event).Spares (.typing field)) ∧
        (r.execute (.handle event)).1.SparesField field rest

/-
  Whether events are a burst of typing into a field: they come
  in order, each time that something is typed follows before
  the last one has settled, and all other events spare it.
-/
structure IsBurst
    (r : Recorder)
    (field : Field)
    (events : List Event) : Prop where
  ordered :
    events.Pairwise (fun a b => a.timestamp ≤ b.timestamp)
  dense : IsDense r.settings (strokes field events)
  spares : r.SparesField field events

/- A burst goes on behind its first event. -/
theorem IsBurst.tail
    (hBurst : r.IsBurst field (event :: events)) :
    (r.execute (.handle event)).1.IsBurst field events where
  ordered := (List.pairwise_cons.mp hBurst.ordered).2
  dense := by
    have hDense := hBurst.dense
    rw [settings_execute]
    cases hTyped : event.typed? field with
    | none =>
        rw [strokes_cons_of_none hTyped] at hDense
        exact hDense
    | some reading =>
        rw [strokes_cons_of_some hTyped] at hDense
        exact List.IsChain.of_cons hDense
  spares := hBurst.spares.2

/- What spares a key only lets time pass for it. -/
theorem handle_of_spares
    (hPhase : r.phase = .recording)
    (hSpares : (r.verdict event).Spares key) :
    (r.execute (.handle event)).1.timers.under key =
        (r.timers.later event.timestamp).under key ∧
      r.candidates (.handle event) =
        (r.timers.due event.timestamp).map
          Pending.candidate := by
  cases hVerdict : r.verdict event with
  | ignore =>
      rcases tick_of_ignore hPhase hVerdict with
        ⟨hTimers, hCandidates⟩
      rw [hTimers]
      exact ⟨rfl, hCandidates⟩
  | settle other deadline action =>
      rcases tick_of_settle hPhase hVerdict with
        ⟨hTimers, hCandidates⟩
      rw [hVerdict] at hSpares
      rw [hTimers, Timers.under_schedule_of_ne _ hSpares]
      exact ⟨rfl, hCandidates⟩
  | record action =>
      rw [hVerdict] at hSpares
      exact hSpares.elim

/-
  What is typed takes the place of what was typed before, if
  the clock goes on until it settles; other events of a burst
  leave it alone.
-/
theorem awaits_handle
    (hPhase : r.phase = .recording)
    (hRoom :
      ∀ reading,
        event.typed? field = some reading →
          reading.timestamp + r.settings.typeDelay <
            UInt64.size)
    (hSpares :
      event.typed? field = none →
        (r.verdict event).Spares (.typing field))
    (hLater :
      (r.timers.later event.timestamp).Awaits r.settings field
        awaited) :
    (r.execute (.handle event)).1.timers.Awaits r.settings
        field ((event.typed? field).or awaited) ∧
      r.candidates (.handle event) =
        (r.timers.due event.timestamp).map
          Pending.candidate := by
  cases hTyped : event.typed? field with
  | none =>
      rcases handle_of_spares hPhase (hSpares hTyped) with
        ⟨hUnder, hCandidates⟩
      exact ⟨hLater.of_under hUnder, hCandidates⟩
  | some reading =>
      rcases exists_interpret_of_typed? r.settings
          (r.poll event.timestamp).1.location hTyped with
        ⟨draft, hTold, hVerdict⟩
      rcases tick_of_settle hPhase hVerdict with
        ⟨hTimers, hCandidates⟩
      rw [hTimers]
      exact
        ⟨⟨_, Timers.under_schedule_self .., hTold,
            clockAfter_of_lt (hRoom reading hTyped)⟩,
          hCandidates⟩

/- Events, and a poll behind them. -/
def polled (events : List Event) (now : Nat) : List Command :=
  events.map .handle ++ [.poll now]

theorem isCapture_polled
    (events : List Event)
    (now : Nat) :
    ∀ command ∈ polled events now, command.IsCapture := by
  intro command hCommand
  rcases List.mem_append.mp hCommand with hEvent | hPoll
  · rcases List.mem_map.mp hEvent with ⟨event, _, rfl⟩
    trivial
  · rw [List.mem_singleton.mp hPoll]
    trivial

/-
  Of a burst its last reading comes up, once, or what waited
  for the field if nothing was typed. The induction is on the
  events; what the field awaits is the last reading so far,
  until it comes up, and then the burst is over.
-/
theorem comesUp_of_isBurst
    (hSettings : r.settings = settings)
    (hPhase : r.phase = .recording)
    (hBurst : r.IsBurst field events)
    (hAwaits : r.timers.Awaits settings field awaited)
    (hDense :
      IsDense settings (awaited.toList ++ strokes field events))
    (hRoom :
      ∀ reading ∈ strokes field events,
        reading.timestamp + settings.typeDelay < UInt64.size)
    (hNow :
      ∀ last,
        (awaited.toList ++ strokes field events).getLast? =
            some last →
          last.timestamp + settings.typeDelay ≤ now) :
    ComesUp (awaited.toList ++ strokes field events).getLast?
      (firing (.typing field)
        (r.stream (polled events now))) := by
  induction events generalizing r awaited with
  | nil =>
      have hStream :
          r.stream (polled [] now) =
            (r.timers.due now).map Pending.candidate :=
        (List.append_nil _).trans (map_ofEntry_takeDue _ _)
      have hLast :
          (awaited.toList ++ strokes field []).getLast? =
            awaited := by
        cases awaited <;> rfl
      rw [hLast] at hNow
      rw [hLast, hStream]
      rcases hAwaits.due_or_later now with
        ⟨hEarly, hFiring, _⟩ | ⟨_, _, _, hComesUp, _⟩
      · cases awaited with
        | none => exact hFiring
        | some last =>
            exact absurd (hNow last rfl)
              (Nat.not_le.mpr (hEarly last rfl))
      · exact hComesUp
  | cons event events ih =>
      have hStream :
          r.stream (polled (event :: events) now) =
            r.candidates (.handle event) ++
              (r.execute (.handle event)).1.stream
                (polled events now) :=
        rfl
      have hNext :=
        (r.settings_execute (.handle event)).trans hSettings
      have hRecording := phase_handle hPhase event
      have hTypedRoom :
          ∀ reading,
            event.typed? field = some reading →
              reading.timestamp + r.settings.typeDelay <
                UInt64.size := by
        intro reading hTyped
        rw [hSettings]
        apply hRoom
        rw [strokes_cons_of_some hTyped]
        exact List.mem_cons_self
      have hRestRoom :
          ∀ reading ∈ strokes field events,
            reading.timestamp + settings.typeDelay <
              UInt64.size := fun reading hStroke =>
        hRoom reading (strokes_subset_cons event events hStroke)
      rcases hAwaits.due_or_later event.timestamp with
        ⟨_, hFiring, hLater⟩ |
          ⟨first, rfl, hDue, hComesUp, hLater⟩
      · -- Nothing comes up yet of what the field awaits.
        rw [← hSettings] at hLater
        rcases awaits_handle hPhase hTypedRoom
            hBurst.spares.1 hLater with
          ⟨hHeld, hCandidates⟩
        rw [hSettings] at hHeld
        rw [hStream, firing_append, hCandidates, hFiring,
          List.nil_append]
        cases hTyped : event.typed? field with
        | none =>
            rw [hTyped, Option.none_or] at hHeld
            rw [strokes_cons_of_none hTyped] at hDense hNow ⊢
            exact ih hNext hRecording hBurst.tail hHeld hDense
              hRestRoom hNow
        | some reading =>
            rw [hTyped, Option.some_or] at hHeld
            rw [strokes_cons_of_some hTyped] at hDense hNow ⊢
            rw [List.getLast?_append_cons] at hNow ⊢
            exact ih hNext hRecording hBurst.tail hHeld
              (List.IsChain.right_of_append hDense) hRestRoom
              hNow
      · -- It comes up, and nothing more is typed.
        have hOver :=
          strokes_eq_nil_of_due hBurst.ordered hDense hDue
        have hTyped : event.typed? field = none :=
          List.filterMap_eq_nil_iff.mp hOver event
            List.mem_cons_self
        have hRest : strokes field events = [] := by
          rw [← strokes_cons_of_none hTyped]
          exact hOver
        rw [← hSettings] at hLater
        rcases awaits_handle hPhase hTypedRoom
            hBurst.spares.1 hLater with
          ⟨hHeld, hCandidates⟩
        rw [hTyped, Option.none_or, hSettings] at hHeld
        have hQuiet :=
          ih hNext hRecording hBurst.tail hHeld
            (hRest ▸ .nil) hRestRoom
            (hRest ▸ fun _ hSome => nomatch hSome)
        rw [hRest] at hQuiet
        have hSilent :
            firing (.typing field)
                ((r.execute (.handle event)).1.stream
                  (polled events now)) =
              [] := hQuiet
        rw [hOver, hStream, firing_append, hCandidates, hSilent,
          List.append_nil, List.append_nil]
        exact hComesUp

end Recorder

------------------------------------------------------------
-- Candidates of a Field
------------------------------------------------------------

/- What waits under the key of a field is done to it. -/
theorem TimerKey.Suits.isOn_iff
    {key : TimerKey}
    {a : Action}
    (hSuits : key.Suits a) :
    a.IsOn ⟨field, .entry⟩ ↔ key = .typing field := by
  constructor
  · intro hOn
    have hKind := hSuits.kind.symm.trans hOn.kind
    cases key with
    | typing other =>
        have hOther := hSuits.field other rfl
        have hSelector :=
          Option.some.inj (hOther.1.symm.trans hOn.selector)
        have hFrames := hOther.2.symm.trans hOn.frames
        rcases other with ⟨selector, frames⟩
        rcases field with ⟨otherSelector, otherFrames⟩
        cases hSelector
        cases hFrames
        rfl
    | hover => cases hKind
    | scroll => cases hKind
  · rintro rfl
    have hField := hSuits.field field rfl
    exact ⟨hSuits.kind, hField.1, hField.2⟩

/- Whether a candidate that waited did so where it should. -/
def Candidate.IsFit (candidate : Candidate) : Prop :=
  ∀ key,
    candidate.waited = some key → key.Suits candidate.action

theorem Command.offers_isFit
    (settings : Settings)
    (command : Command) :
    command.Offers settings Candidate.IsFit := by
  cases command with
  | handle event =>
      intro location
      cases hVerdict :
          settings.interpret location event.normalise with
      | ignore => trivial
      | record action => exact nofun
      | settle key deadline action =>
          rintro _ ⟨⟩
          exact
            (Settings.interpret_eq_settle_iff.mp hVerdict).suits
  | append action => exact nofun
  | _ => trivial

/- While events are taken all that is typed has to wait. -/
theorem Command.IsCapture.offers_waited
    {command : Command}
    (settings : Settings)
    (field : Field)
    (hCapture : command.IsCapture) :
    command.Offers settings fun candidate =>
      candidate.action.IsOn ⟨field, .entry⟩ →
        candidate.waited = some (.typing field) := by
  cases command with
  | handle event =>
      intro location
      have hCaptures :
          ∀ command ∈ [Command.handle event],
            command.IsCapture := by
        simpa using hCapture
      have hGenuine :=
        offers_isGenuine settings hCaptures _
          List.mem_cons_self location
      exact hGenuine.mono fun candidate hGenuine hOn =>
        (Recorder.timer?_of_isOn hGenuine hOn).symm
  | poll now => trivial
  | flush => trivial
  | _ => exact hCapture.elim

namespace Recorder

variable {r s : Recorder}
variable {events : List Event}
variable {candidate : Candidate}
variable {candidates : List Candidate}

------------------------------------------------------------
-- What Is New to a Recorder
------------------------------------------------------------

/- Whether nothing that was typed into a field is in mind. -/
structure IsNewTo
    (r : Recorder)
    (field : Field) : Prop where
  lastValue? : r.lastValue? field = none
  lastRecorded :
    ∀ last,
      r.lastRecorded = some last →
        ¬ last.IsOn ⟨field, .entry⟩

theorem IsNewTo.of_agrees
    (hNew : r.IsNewTo field)
    (hAgrees : Agrees r s) :
    s.IsNewTo field where
  lastValue? := by
    have hNone := hNew.lastValue?
    unfold Recorder.lastValue? at hNone ⊢
    rw [hAgrees.lastValues]
    exact hNone
  lastRecorded := by
    rw [hAgrees.lastRecorded]
    exact hNew.lastRecorded

theorem IsFresh.isNewTo
    (hFresh : r.IsFresh)
    (field : Field) :
    r.IsNewTo field where
  lastValue? := by
    unfold Recorder.lastValue?
    rw [hFresh.lastValues]
    rfl
  lastRecorded last hLast hOn := by
    apply hFresh.lastRecorded last hLast
    rw [hOn.kind]
    exact ControlKind.actionKind_mem _

/- A text is remembered only if it is recorded. -/
theorem lastValue?_judge
    (hWaited :
      candidate.waited = some (.typing field) →
        (r.judge candidate).2 = none) :
    (r.judge candidate).1.lastValue? field =
      r.lastValue? field := by
  by_cases hTyping :
      ∃ other, candidate.waited = some (.typing other)
  · rcases hTyping with ⟨other, hOther⟩
    unfold judge at hWaited ⊢
    rw [hOther] at hWaited ⊢
    dsimp only at hWaited ⊢
    by_cases hSettles :
        r.Settles (.typing other) candidate.action
    · rw [settle_of_settles hSettles] at hWaited ⊢
      unfold remember
      rw [lastValue?_rememberValue, if_neg ?_]
      · unfold lastValue?
        rw [lastValues_record]
      · rintro rfl
        cases hWaited rfl
    · rw [settle_of_not_settles hSettles]
  · unfold lastValue?
    rw [lastValues_judge fun other hOther =>
      hTyping ⟨other, hOther⟩]

/- A field stays new while nothing is recorded of it. -/
theorem IsNewTo.judge
    (hNew : r.IsNewTo field)
    (hWaited :
      candidate.waited = some (.typing field) →
        candidate.action.IsOn ⟨field, .entry⟩)
    (hNone :
      ∀ seen ∈ (r.judge candidate).2,
        ¬ seen.IsOn ⟨field, .entry⟩) :
    (r.judge candidate).1.IsNewTo field where
  lastValue? := by
    rw [lastValue?_judge, hNew.lastValue?]
    intro hTyping
    rcases r.judge_eq_none_or candidate with hJudge | hJudge
    · exact hJudge
    · refine absurd ?_ (hNone _ hJudge)
      exact r.settings.isOn_sanitise.mpr (hWaited hTyping)
  lastRecorded last hLast := by
    rw [lastRecorded_judge] at hLast
    rcases Option.or_eq_some_iff.mp hLast with
      hSeen | ⟨_, hOld⟩
    · exact hNone last hSeen
    · exact hNew.lastRecorded last hOld

theorem IsNewTo.judgeAll
    (hNew : r.IsNewTo field)
    (hWaited :
      ∀ candidate ∈ candidates,
        candidate.waited = some (.typing field) →
          candidate.action.IsOn ⟨field, .entry⟩)
    (hNone :
      ∀ seen ∈ (r.judgeAll candidates).2,
        ¬ seen.IsOn ⟨field, .entry⟩) :
    (r.judgeAll candidates).1.IsNewTo field := by
  induction candidates generalizing r with
  | nil => exact hNew
  | cons candidate candidates ih =>
      have hFirst :=
        hNew.judge (hWaited candidate List.mem_cons_self)
          fun seen hSeen =>
            hNone seen
              (List.mem_append_left _
                (Option.mem_toList.mpr hSeen))
      apply ih hFirst
      · exact fun other hOther =>
          hWaited other (List.mem_cons_of_mem _ hOther)
      · exact fun seen hSeen =>
          hNone seen (List.mem_append_right _ hSeen)

/- What is typed into a new field is recorded. -/
theorem IsNewTo.judge_of_isOn
    (hNew : r.IsNewTo field)
    (hPhase : r.phase = .recording)
    (hWaited : candidate.waited = some (.typing field))
    (hOn : candidate.action.IsOn ⟨field, .entry⟩) :
    (r.judge candidate).2 =
      some (r.settings.sanitise candidate.action) := by
  have hSettles :
      r.Settles (.typing field) candidate.action := by
    refine ⟨hPhase, ?_, ?_⟩
    · intro hSame
      rw [hNew.lastValue?] at hSame
      cases hSame
    · apply Decidable.byContradiction
      intro hRejected
      rcases exists_of_not_accepts hOn hRejected with
        ⟨last, hLast, hSame, _⟩
      exact hNew.lastRecorded last hLast
        (hOn.of_sameTarget hSame)
  unfold Recorder.judge
  rw [hWaited]
  dsimp only
  rw [settle_of_settles hSettles]

/-
  If one candidate came up for a new field, it is all that is
  recorded of the field.
-/
theorem IsNewTo.filter_judgeAll
    (hNew : r.IsNewTo field)
    (hPhase : r.phase = .recording)
    (hWaited :
      ∀ other ∈ candidates,
        other.waited = some (.typing field) ↔
          other.action.IsOn ⟨field, .entry⟩)
    (hFiring :
      firing (.typing field) candidates = [candidate]) :
    (r.judgeAll candidates).2.filter
        (fun seen => seen.IsOn ⟨field, .entry⟩) =
      [r.settings.sanitise candidate.action] := by
  have hOnly :
      candidates.filter
          (fun c => c.action.IsOn ⟨field, .entry⟩) =
        [candidate] := by
    rw [← hFiring]
    exact List.filter_congr fun other hOther =>
      decide_eq_decide.mpr (hWaited other hOther).symm
  rcases List.filter_eq_cons_iff.mp hOnly with
    ⟨first, rest, rfl, hFirst, hOn, hRest⟩
  have hRest := List.filter_eq_nil_iff.mp hRest
  have hOn := of_decide_eq_true hOn
  have hTyping : candidate.waited = some (.typing field) :=
    (hWaited candidate
      (List.mem_append_right _ List.mem_cons_self)).mpr hOn
  have hBefore :
      ∀ seen ∈ (r.judgeAll first).2,
        ¬ seen.IsOn ⟨field, .entry⟩ :=
    not_isOn_of_mem_judgeAll fun other hOther hOn =>
      hFirst other hOther (decide_eq_true hOn)
  have hBehind :
      ∀ seen ∈
          (((r.judgeAll first).1.judge candidate).1.judgeAll
            rest).2,
        ¬ seen.IsOn ⟨field, .entry⟩ :=
    not_isOn_of_mem_judgeAll fun other hOther hOn =>
      hRest other hOther (decide_eq_true hOn)
  have hKeeps := r.keeps_judgeAll first
  have hStill : (r.judgeAll first).1.IsNewTo field :=
    hNew.judgeAll
      (fun other hOther =>
        (hWaited other (List.mem_append_left _ hOther)).mp)
      hBefore
  have hSeen :=
    hStill.judge_of_isOn (hKeeps.phase.trans hPhase) hTyping hOn
  have hShown :
      (r.settings.sanitise candidate.action).IsOn
        ⟨field, .entry⟩ :=
    r.settings.isOn_sanitise.mpr hOn
  rw [judgeAll_append, Recorder.judgeAll]
  dsimp only
  rw [List.filter_append, List.filter_append,
    filter_isOn_eq_nil hBefore, filter_isOn_eq_nil hBehind,
    hSeen, hKeeps.settings, List.nil_append, List.append_nil]
  exact List.filter_cons_of_pos (decide_eq_true hShown)

/-
  A field is new since the start of a recording if nothing was
  recorded of it.
-/
theorem isNewTo_after_start
    {since : List Command}
    (r : Recorder)
    (address : Option String)
    (start : Nat)
    (hOngoing : ∀ command ∈ since, command.IsOngoing)
    (hUnrecorded :
      ∀ seen ∈ r.history (.start address start :: since),
        ¬ seen.IsOn ⟨field, .entry⟩) :
    (r.after (.start address start :: since)).IsNewTo field := by
  have hFresh := r.isFresh_start address start
  have hJudges :
      Judges (r.execute (.start address start)).1 _ _ :=
    judges_stream hOngoing
  have hRecorded :
      (r.execute (.start address start)).1.history since = _ :=
    hJudges.recorded
  have hFit :
      ∀ candidate ∈
          (r.execute (.start address start)).1.stream since,
        candidate.IsFit :=
    hFresh.waitsAs.forall_mem_stream fun command _ =>
      command.offers_isFit _
  apply IsNewTo.of_agrees ?_ hJudges.agrees
  apply (hFresh.isNewTo field).judgeAll
  · intro candidate hCandidate hWaited
    exact (hFit candidate hCandidate _ hWaited).isOn_iff.mpr rfl
  · intro seen hSeen
    rw [← hRecorded] at hSeen
    exact hUnrecorded seen (List.mem_append_right _ hSeen)

/- What comes up of events for a field had waited there. -/
theorem waited_iff_isOn
    (hFit : r.WaitsAs Candidate.IsFit)
    (events : List Event)
    (field : Field)
    (now : Nat) :
    ∀ candidate ∈ r.stream (polled events now),
      candidate.waited = some (.typing field) ↔
        candidate.action.IsOn ⟨field, .entry⟩ := by
  have hCapture := isCapture_polled events now
  have hWaited :
      r.WaitsAs fun candidate =>
        candidate.action.IsOn ⟨field, .entry⟩ →
          candidate.waited = some (.typing field) := by
    intro p hp hOn
    exact congrArg some ((hFit p hp _ rfl).isOn_iff.mp hOn)
  intro candidate hCandidate
  constructor
  · intro hTyping
    have hSuits :=
      hFit.forall_mem_stream
        (fun command _ => command.offers_isFit _)
        candidate hCandidate _ hTyping
    exact hSuits.isOn_iff.mpr rfl
  · exact hWaited.forall_mem_stream
      (fun command hCommand =>
        (hCapture command hCommand).offers_waited _ field)
      candidate hCandidate

/-
  Whatever a recorder has done since its start: if nothing was
  recorded of a field and nothing waits there, a burst of
  typing is recorded as one action, with the text that was
  typed last and at the time of that, as soon as the clock
  shows that it has settled.
-/
theorem exists_recorded_of_isBurst
    (r : Recorder)
    (address : Option String)
    (start now : Nat)
    (since : List Command)
    (field : Field)
    (events : List Event)
    (reading : Reading)
    (hOngoing : ∀ command ∈ since, command.IsOngoing)
    (hUnrecorded :
      ∀ seen ∈ r.history (.start address start :: since),
        ¬ seen.IsOn ⟨field, .entry⟩)
    (hIdle :
      ¬ (r.after (.start address start :: since)).WaitsUnder
        (.typing field))
    (hBurst :
      (r.after (.start address start :: since)).IsBurst field
        events)
    (hLast : (strokes field events).getLast? = some reading)
    (hNow : reading.timestamp + r.settings.typeDelay ≤ now)
    (hClock : now < UInt64.size) :
    ∃ seen,
      ((r.after (.start address start :: since)).history
          (polled events now)).filter
            (fun a => a.IsOn ⟨field, .entry⟩) =
          [seen] ∧
        reading.IsCarriedBy r.settings seen ∧
        seen.timestamp = reading.timestamp := by
  have hFresh := r.isFresh_start address start
  have hNew := r.isNewTo_after_start address start hOngoing
    hUnrecorded
  have hPhase :
      (r.after (.start address start :: since)).phase =
        .recording :=
    (phase_after hOngoing).trans hFresh.phase
  have hSettings :=
    r.settings_after (.start address start :: since)
  have hFit :
      (r.after (.start address start :: since)).WaitsAs
        Candidate.IsFit :=
    hFresh.waitsAs.after fun command _ => command.offers_isFit _
  generalize r.after (.start address start :: since) = s at *
  have hAwaits : s.timers.Awaits r.settings field none := by
    refine List.filter_eq_nil_iff.mpr ?_
    intro p hp hKey
    exact hIdle ⟨p, hp, of_decide_eq_true hKey⟩
  have hDense := hBurst.dense
  rw [hSettings] at hDense
  have hComesUp :
      ComesUp (strokes field events).getLast?
        (firing (.typing field)
          (s.stream (polled events now))) := by
    refine comesUp_of_isBurst hSettings hPhase hBurst hAwaits
      hDense ?_ ?_
    · intro stroke hStroke
      have hLatest :=
        timestamp_le_of_getLast?_strokes hBurst.ordered hLast
          hStroke
      omega
    · intro last hSome
      cases hLast.symm.trans hSome
      exact hNow
  rw [hLast] at hComesUp
  rcases hComesUp with ⟨candidate, hFiring, hTold⟩
  have hJudges : Judges s _ _ :=
    judges_stream fun command hCommand =>
      (isCapture_polled events now command hCommand).isOngoing
  have hHistory :
      s.history (polled events now) =
        (s.judgeAll (s.stream (polled events now))).2 :=
    hJudges.recorded
  refine ⟨r.settings.sanitise candidate.action, ?_,
    hTold.isCarriedBy r.settings, hTold.timestamp⟩
  rw [hHistory, ← hSettings]
  exact hNew.filter_judgeAll hPhase
    (waited_iff_isOn hFit events field now) hFiring

/- A field on the same page as `pin`. -/
def memoField (text : String) : Element where
  tagName := "textarea"
  attributes := Attributes.ofList [("name", "memo")]
  form := { value := some text }

/- A recorder at the beginning of a memo. -/
def writing : Recorder :=
  (new {}).after [.start none 0, inputInto (memoField "") 500]

/-
  Someone types into both fields in turn and passes over a
  button with a hint.
-/
def jotting : List Event :=
  [⟨.gesture .input (filledField "text" "1"), 1000⟩,
    ⟨.gesture .mouseOver helpButton, 1500⟩,
    ⟨.gesture .input (memoField "a"), 2000⟩,
    ⟨.gesture .change (filledField "text" "12"), 2500⟩]

/- Of the burst in one of them its last text is recorded. -/
theorem exists_recorded_of_jotting :
    (∀ seen ∈
        (new {}).history
          [.start none 0, inputInto (memoField "") 500],
      ¬ seen.IsOn pin) ∧
      ¬ writing.WaitsUnder (.typing pin.field) ∧
      writing.IsBurst pin.field jotting ∧
      (strokes pin.field jotting).getLast? =
        some ((filledField "text" "12").reading .entry 2500) ∧
      ∃ seen,
        (writing.history (polled jotting 4500)).filter
            (fun a => a.IsOn pin) =
            [seen] ∧
          ((filledField "text" "12").reading .entry
            2500).IsCarriedBy {} seen ∧
          seen.timestamp = 2500 := by
  have hOngoing :
      ∀ command ∈ [inputInto (memoField "") 500],
        command.IsOngoing := by
    simp [inputInto, Command.IsOngoing]
  have hUnrecorded :
      ∀ seen ∈
          (new {}).history
            [.start none 0, inputInto (memoField "") 500],
        ¬ seen.IsOn pin := by
    decide
  have hIdle : ¬ writing.WaitsUnder (.typing pin.field) := by
    unfold WaitsUnder
    decide
  have hBurst : writing.IsBurst pin.field jotting := by
    refine ⟨by decide, ?_, ?_⟩
    · unfold IsDense
      decide
    · exact ⟨by decide, by decide, by decide, by decide,
        trivial⟩
  have hLast :
      (strokes pin.field jotting).getLast? =
        some ((filledField "text" "12").reading .entry 2500) := by
    decide
  exact ⟨hUnrecorded, hIdle, hBurst, hLast,
    (new {}).exists_recorded_of_isBurst none 0 4500 _ _ _ _
      hOngoing hUnrecorded hIdle hBurst hLast (by decide)
      (by decide)⟩

end Recorder

end Capture

end Clickstream
