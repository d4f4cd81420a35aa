import Mathlib.Data.List.Perm.Basic
import Clickstream.Proofs.Studio.Delivery

/-
  Overlap: starts and stops that come while others are still
  in progress. A start opens a session and then has the
  recorder start; a stop has the recorder stop and then closes
  the session. Between the two steps of a call there may be
  steps of any other, and the two sides can part.

  Key definitions:
    * `Crowd`: a studio with what the calls in progress have
      still to do
    * `Crowd.Move`, `Crowd.step`, `Crowd.after`
    * `Crowd.turns`, `Crowd.isTangled`, `Crowd.endsTangled`
    * `Crowd.Heads`: where a crowd is bound to end up

  Key theorems:
    * `Crowd.after_start`, `Crowd.after_stop`: calls on their
      own
    * `Crowd.Heads.step`, `Crowd.Heads.after`
    * `Crowd.agrees_iff_endsTangled`
    * `Crowd.recording_without_session`
-/

namespace Clickstream

open Capture (Command Recorder)

------------------------------------------------------------
-- Errands
------------------------------------------------------------

/- What a call in progress has to do next. -/
inductive Errand where
  | startRecorder (address : Option String)
  | stopRecorder
  | closeSession
deriving DecidableEq, Repr

namespace Errand

/- The second half of a start. -/
def isStart : Errand → Bool
  | .startRecorder _ => true
  | _ => false

/- The last part of a stop. -/
def isClose : Errand → Bool
  | .closeSession => true
  | _ => false

end Errand

------------------------------------------------------------
-- Parts of Calls
------------------------------------------------------------

namespace Studio

/-
  The first half of a start: a session is opened, and the
  recorder has still to start. Where it is refused, the call
  is over.
-/
def enter?
    (studio : Studio)
    (fileName : String)
    (language : Language)
    (startUrl : Option String) : Option (Studio × Errand) :=
  match Text.nonBlank fileName with
  | none => none
  | some name =>
      let address :=
        startUrl.filter (fun url => !Text.isBlankText url)
      match studio.openSession name language address with
      | .error _ => none
      | .ok (opened, _) => some (opened, .startRecorder address)

end Studio

------------------------------------------------------------
-- Crowds
------------------------------------------------------------

/- A studio and the errands of the calls in progress. -/
structure Crowd where
  studio : Studio
  errands : List Errand := []

namespace Crowd

/-
  What can happen next: a start or a stop comes, the call at
  some place of the list goes on, the recorder goes about its
  other work, or time passes.
-/
inductive Move where
  | start
      (fileName : String)
      (language : Language)
      (startUrl : Option String)
  | stop
  | proceed (place : Nat)
  | work (command : Command) (hOngoing : command.IsOngoing)
  | lapse (duration : Nat)

/- Nothing is in progress in a new studio. -/
def new (settings : Capture.Settings) (now : Nat) : Crowd :=
  { studio := Studio.new settings now }

/- Run an errand, with others still in progress. -/
def carryOut
    (studio : Studio)
    (others : List Errand) : Errand → Crowd
  | .startRecorder address =>
      ⟨(Station.start studio address).1, others⟩
  | .stopRecorder =>
      ⟨Station.stop studio, .closeSession :: others⟩
  | .closeSession => ⟨studio.closed, others⟩

/- Where a move leads to. -/
def step (crowd : Crowd) : Move → Crowd
  | .start fileName language startUrl =>
      match crowd.studio.enter? fileName language startUrl with
      | none => crowd
      | some (opened, errand) =>
          ⟨opened, errand :: crowd.errands⟩
  | .stop =>
      if crowd.studio.isRecording then
        { crowd with
          errands := .stopRecorder :: crowd.errands }
      else crowd
  | .proceed place =>
      match crowd.errands[place]? with
      | none => crowd
      | some errand =>
          carryOut crowd.studio (crowd.errands.eraseIdx place)
            errand
  | .work command _ =>
      { crowd with
        studio :=
          (crowd.studio.deliver
            ((crowd.studio.recorder.execute command).1,
              crowd.studio.recorder.recorded command)).1 }
  | .lapse duration =>
      { crowd with studio := crowd.studio.later duration }

/- The crowd after moves. -/
def after (crowd : Crowd) : List Move → Crowd
  | [] => crowd
  | move :: rest => (crowd.step move).after rest

/- Whether a move opens a session or stops the recorder. -/
def turns (crowd : Crowd) : Move → Bool
  | .start fileName language startUrl =>
      (crowd.studio.enter? fileName language startUrl).isSome
  | .proceed place => crowd.errands[place]? = some .stopRecorder
  | _ => false

/- Whether a call is about to start the recorder. -/
def isStarting (crowd : Crowd) : Bool :=
  crowd.errands.any Errand.isStart

/- Whether a call is about to close the session. -/
def isClosing (crowd : Crowd) : Bool :=
  crowd.errands.any Errand.isClose

/- Whether there are calls of both kinds. -/
def isTangled (crowd : Crowd) : Bool :=
  crowd.isStarting && crowd.isClosing

/-
  Whether the last of the moves that opened a session or
  stopped the recorder left a tangle; `tangled` tells it of
  the moves before.
-/
def endsTangled
    (crowd : Crowd)
    (tangled : Bool) : List Move → Bool
  | [] => tangled
  | move :: rest =>
      (crowd.step move).endsTangled
        (if crowd.turns move then (crowd.step move).isTangled
          else tangled)
        rest

------------------------------------------------------------
-- Calls on Their Own
------------------------------------------------------------

variable {studio : Studio}
variable {crowd : Crowd}
variable {fileName : String}
variable {language : Language}
variable {startUrl : Option String}

/- The halves of a start are those of the whole call. -/
theorem enter?_cases
    (studio : Studio)
    (fileName : String)
    (language : Language)
    (startUrl : Option String) :
    (studio.enter? fileName language startUrl = none ∧
      ∃ fault,
        studio.start fileName language startUrl =
          studio.refuse fault) ∨
    ∃ store address session,
      store.Logs [] ∧
        studio.enter? fileName language startUrl =
            some ({ studio with outlet := store },
              .startRecorder address) ∧
          studio.start fileName language startUrl =
            Studio.finish
              (Station.start { studio with outlet := store }
                address)
              session := by
  unfold Studio.enter? Studio.start Studio.openSession
  cases Text.nonBlank fileName with
  | none => exact Or.inl ⟨rfl, .nameRequired, rfl⟩
  | some name =>
      dsimp only
      cases hOpen :
          studio.outlet.openSession name language
            (startUrl.filter fun url =>
              !Text.isBlankText url) with
      | error fault => exact Or.inl ⟨rfl, fault, rfl⟩
      | ok opened =>
          have hBegins := Store.begins_of_openSession hOpen
          exact Or.inr
            ⟨opened.1, _, opened.2, hBegins.logs, rfl, rfl⟩

/- A start that meets no other call is its two steps. -/
theorem after_start
    (hOpens :
      studio.opens (.start fileName language startUrl) =
        true) :
    (⟨studio, []⟩ : Crowd).after
        [.start fileName language startUrl, .proceed 0,
          .work (.poll studio.now) trivial] =
      ⟨(studio.start fileName language startUrl).studio,
        []⟩ := by
  rcases enter?_cases studio fileName language startUrl with
    ⟨_, fault, hStart⟩ |
      ⟨store, address, session, _, hEnter, hStart⟩
  · rw [Studio.opens_of_refuse hStart] at hOpens
    cases hOpens
  · rw [hStart]
    dsimp only [after, step]
    rw [hEnter]
    rfl

/- A stop that meets no other call is its three steps. -/
theorem after_stop (hRecording : studio.isRecording = true) :
    (⟨studio, []⟩ : Crowd).after
        [.stop, .proceed 0, .proceed 0,
          .work (.poll studio.now) trivial] =
      ⟨studio.stop.studio, []⟩ := by
  rcases Option.isSome_iff_exists.mp hRecording with
    ⟨session, hActive⟩
  have hStopped :
      (Station.stop studio).outlet.active? = some session :=
    hActive
  have hClosed :
      Studio.closed (Station.stop studio) =
        studio.stopped session := by
    unfold Studio.closed
    rw [Studio.closeSession_of_active hStopped]
    rfl
  rw [Studio.stop_of_active hActive]
  dsimp only [after, step]
  rw [if_pos hRecording]
  dsimp only [List.getElem?_cons_zero, carryOut,
    List.eraseIdx_cons_zero]
  rw [hClosed]
  rfl

------------------------------------------------------------
-- Both Sides
------------------------------------------------------------

/- An opened session is active. -/
theorem isRecording_of_logs
    {store : Store}
    {emitted : List Action}
    (hLogs : store.Logs emitted) :
    store.isActive = true := by
  rcases hLogs with ⟨session, hSession, _⟩
  exact Option.isSome_iff_exists.mpr ⟨session, hSession⟩

theorem phase_start
    (studio : Studio)
    (address : Option String) :
    (Station.start studio address).1.recorder.phase =
      .recording := by
  have hCarries := Station.carries_start studio address
  rw [hCarries.recorder]
  exact studio.recorder.phase_execute_start address studio.now

theorem isRecording_start
    (studio : Studio)
    (address : Option String) :
    Studio.isRecording (Station.start studio address).1 =
      studio.isRecording :=
  Studio.isRecording_of_carries
    (Station.carries_start studio address)

/- A closed session is not active, whoever closed it. -/
theorem isRecording_closed (studio : Studio) :
    studio.closed.isRecording = false := by
  unfold Studio.closed
  cases hActive : studio.outlet.active? with
  | none =>
      rw [Studio.closeSession_of_not_active hActive]
      exact Studio.isRecording_of_not_active hActive
  | some session =>
      rw [Studio.closeSession_of_active hActive]
      rfl

theorem recorder_closed (studio : Studio) :
    studio.closed.recorder = studio.recorder := by
  unfold Studio.closed
  cases hActive : studio.outlet.active? with
  | none =>
      rw [Studio.closeSession_of_not_active hActive]
  | some session =>
      rw [Studio.closeSession_of_active hActive]

/- The errand of a call that goes on is one among all. -/
theorem any_eq_of_getElem?
    {errands : List Errand}
    {place : Nat}
    {errand : Errand}
    (hErrand : errands[place]? = some errand)
    (p : Errand → Bool) :
    errands.any p =
      (p errand || (errands.eraseIdx place).any p) := by
  rcases List.getElem?_eq_some_iff.mp hErrand with
    ⟨hPlace, rfl⟩
  rw [← List.any_cons]
  exact (List.getElem_cons_eraseIdx_perm hPlace).any_eq.symm

------------------------------------------------------------
-- Where It Ends
------------------------------------------------------------

/- Whether the recorder records once all calls are over. -/
def WillRecord (crowd : Crowd) : Prop :=
  crowd.studio.recorder.phase = .recording ∨
    crowd.isStarting = true

/- Whether no session is active once all calls are over. -/
def WillClose (crowd : Crowd) : Prop :=
  crowd.studio.isRecording = false ∨ crowd.isClosing = true

/-
  Where a crowd is bound to end up, unless a session is opened
  or the recorder stopped again. After such a move either no
  call is left that undoes one side of it, and both sides go
  the same way, or there is one, and they part.
-/
inductive Heads (crowd : Crowd) : Bool → Prop where
  | recording
      (hActive : crowd.studio.isRecording = true)
      (hRecord : crowd.WillRecord)
      (hClosing : crowd.isClosing = false) :
      Heads crowd false
  | idle
      (hPhase : crowd.studio.recorder.phase = .idle)
      (hClose : crowd.WillClose)
      (hStarting : crowd.isStarting = false) :
      Heads crowd false
  | astray
      (hRecord : crowd.WillRecord)
      (hClose : crowd.WillClose) :
      Heads crowd true

variable {tangled : Bool}

theorem heads_new (settings : Capture.Settings) (now : Nat) :
    (new settings now).Heads false :=
  .idle rfl (Or.inl rfl) rfl

/- Nothing else counts for that. -/
theorem Heads.of_eq
    {next : Crowd}
    (hHeads : crowd.Heads tangled)
    (hPhase :
      next.studio.recorder.phase =
        crowd.studio.recorder.phase)
    (hActive :
      next.studio.isRecording = crowd.studio.isRecording)
    (hStarting : next.isStarting = crowd.isStarting)
    (hClosing : next.isClosing = crowd.isClosing) :
    next.Heads tangled := by
  have hRecord : next.WillRecord ↔ crowd.WillRecord := by
    unfold WillRecord
    rw [hPhase, hStarting]
  have hClose : next.WillClose ↔ crowd.WillClose := by
    unfold WillClose
    rw [hActive, hClosing]
  cases hHeads with
  | recording hOld hWillRecord hNone =>
      exact .recording (hActive.trans hOld)
        (hRecord.mpr hWillRecord) (hClosing.trans hNone)
  | idle hOld hWillClose hNone =>
      exact .idle (hPhase.trans hOld)
        (hClose.mpr hWillClose) (hStarting.trans hNone)
  | astray hWillRecord hWillClose =>
      exact .astray (hRecord.mpr hWillRecord)
        (hClose.mpr hWillClose)

/- An opened session, and a call that starts the recorder. -/
theorem heads_of_opened
    (hActive : crowd.studio.isRecording = true)
    (hStarting : crowd.isStarting = true) :
    crowd.Heads crowd.isTangled := by
  unfold isTangled
  rw [hStarting]
  cases hClosing : crowd.isClosing with
  | false =>
      exact .recording hActive (Or.inr hStarting) hClosing
  | true => exact .astray (Or.inr hStarting) (Or.inr hClosing)

/- A stopped recorder, and a call that closes the session. -/
theorem heads_of_stopped
    (hPhase : crowd.studio.recorder.phase = .idle)
    (hClosing : crowd.isClosing = true) :
    crowd.Heads crowd.isTangled := by
  unfold isTangled
  rw [hClosing]
  cases hStarting : crowd.isStarting with
  | false => exact .idle hPhase (Or.inr hClosing) hStarting
  | true => exact .astray (Or.inr hStarting) (Or.inr hClosing)

/- The recorder starts, as some call was about to do. -/
theorem Heads.started
    {next : Crowd}
    (hHeads : crowd.Heads tangled)
    (hStarting : crowd.isStarting = true)
    (hPhase : next.studio.recorder.phase = .recording)
    (hActive :
      next.studio.isRecording = crowd.studio.isRecording)
    (hClosing : next.isClosing = crowd.isClosing) :
    next.Heads tangled := by
  cases hHeads with
  | recording hOld _ hNone =>
      exact .recording (hActive.trans hOld) (Or.inl hPhase)
        (hClosing.trans hNone)
  | idle _ _ hNone =>
      rw [hNone] at hStarting
      cases hStarting
  | astray _ hClose =>
      refine .astray (Or.inl hPhase) ?_
      unfold WillClose
      rw [hActive, hClosing]
      exact hClose

/- The session is closed, as some call was about to do. -/
theorem Heads.closed
    {next : Crowd}
    (hHeads : crowd.Heads tangled)
    (hClosing : crowd.isClosing = true)
    (hPhase :
      next.studio.recorder.phase =
        crowd.studio.recorder.phase)
    (hActive : next.studio.isRecording = false)
    (hStarting : next.isStarting = crowd.isStarting) :
    next.Heads tangled := by
  cases hHeads with
  | recording _ _ hNone =>
      rw [hNone] at hClosing
      cases hClosing
  | idle hOld _ hNone =>
      exact .idle (hPhase.trans hOld) (Or.inl hActive)
        (hStarting.trans hNone)
  | astray hRecord _ =>
      refine .astray ?_ (Or.inl hActive)
      unfold WillRecord
      rw [hPhase, hStarting]
      exact hRecord

/- A call that goes on keeps a crowd where it heads. -/
theorem Heads.carryOut
    {place : Nat}
    {errand : Errand}
    (hHeads : crowd.Heads tangled)
    (hErrand : crowd.errands[place]? = some errand) :
    (carryOut crowd.studio (crowd.errands.eraseIdx place)
        errand).Heads
      (if errand = .stopRecorder then
        (carryOut crowd.studio
          (crowd.errands.eraseIdx place) errand).isTangled
      else tangled) := by
  have hAny := any_eq_of_getElem? hErrand
  cases errand with
  | startRecorder address =>
      rw [if_neg nofun]
      have hStarting : crowd.isStarting = true :=
        hAny Errand.isStart
      exact hHeads.started hStarting
        (phase_start crowd.studio address)
        (isRecording_start crowd.studio address)
        (hAny Errand.isClose).symm
  | stopRecorder =>
      rw [if_pos rfl]
      exact heads_of_stopped rfl rfl
  | closeSession =>
      rw [if_neg nofun]
      have hClosing : crowd.isClosing = true :=
        hAny Errand.isClose
      have hPhase :
          crowd.studio.closed.recorder.phase =
            crowd.studio.recorder.phase := by
        rw [recorder_closed]
      exact hHeads.closed hClosing hPhase
        (isRecording_closed crowd.studio)
        (hAny Errand.isStart).symm

/- So does any move, or it sets a new course. -/
theorem Heads.step
    (hHeads : crowd.Heads tangled)
    (move : Move) :
    (crowd.step move).Heads
      (if crowd.turns move then (crowd.step move).isTangled
        else tangled) := by
  cases move with
  | start fileName language startUrl =>
      rcases enter?_cases crowd.studio fileName language
          startUrl with
        ⟨hEnter, _⟩ |
          ⟨store, address, session, hLogs, hEnter, _⟩
      · have hStep :
            crowd.step (.start fileName language startUrl) =
              crowd := by
          simp only [Crowd.step, hEnter]
        have hTurns :
            crowd.turns (.start fileName language startUrl) =
              false := by
          simp only [turns, hEnter, Option.isSome_none]
        rw [hStep, hTurns, if_neg Bool.false_ne_true]
        exact hHeads
      · have hStep :
            crowd.step (.start fileName language startUrl) =
              ⟨{ crowd.studio with outlet := store },
                .startRecorder address :: crowd.errands⟩ := by
          simp only [Crowd.step, hEnter]
        have hTurns :
            crowd.turns (.start fileName language startUrl) =
              true := by
          simp only [turns, hEnter, Option.isSome_some]
        rw [hStep, hTurns, if_pos rfl]
        exact heads_of_opened (isRecording_of_logs hLogs) rfl
  | stop =>
      change (crowd.step .stop).Heads tangled
      dsimp only [Crowd.step]
      split
      · exact hHeads.of_eq rfl rfl rfl rfl
      · exact hHeads
  | proceed place =>
      cases hErrand : crowd.errands[place]? with
      | none =>
          have hStep :
              crowd.step (.proceed place) = crowd := by
            simp only [Crowd.step, hErrand]
          have hTurns :
              crowd.turns (.proceed place) = false := by
            simp only [turns, hErrand, reduceCtorEq,
              decide_false]
          rw [hStep, hTurns, if_neg Bool.false_ne_true]
          exact hHeads
      | some errand =>
          have hStep :
              crowd.step (.proceed place) =
                Crowd.carryOut crowd.studio
                  (crowd.errands.eraseIdx place) errand := by
            simp only [Crowd.step, hErrand]
          have hTurns :
              crowd.turns (.proceed place) =
                decide (errand = .stopRecorder) := by
            simp only [turns, hErrand, Option.some.injEq]
          rw [hStep, hTurns]
          simp only [decide_eq_true_eq]
          exact hHeads.carryOut hErrand
  | work command hOngoing =>
      change (crowd.step (.work command hOngoing)).Heads tangled
      have hCarries := crowd.studio.carries_deliver command
      have hPhase :
          (crowd.studio.recorder.execute command).1.phase =
            crowd.studio.recorder.phase :=
        Recorder.phase_execute hOngoing
      exact hHeads.of_eq hPhase
        (Studio.isRecording_of_carries hCarries) rfl rfl
  | lapse duration => exact hHeads.of_eq rfl rfl rfl rfl

theorem Heads.after
    (hHeads : crowd.Heads tangled)
    (moves : List Move) :
    (crowd.after moves).Heads
      (crowd.endsTangled tangled moves) := by
  induction moves generalizing crowd tangled with
  | nil => exact hHeads
  | cons move moves ih => exact ih (hHeads.step move)

/- It is there when no call is in progress. -/
theorem Heads.arrived
    (hHeads : crowd.Heads tangled)
    (hDone : crowd.errands = []) :
    (crowd.studio.recorder.phase = .recording ↔
        crowd.studio.isRecording = true ∨ tangled = true) ∧
      (tangled = true → crowd.studio.isRecording = false) := by
  have hStarting : crowd.isStarting = false := by
    unfold isStarting
    rw [hDone]
    rfl
  have hClosing : crowd.isClosing = false := by
    unfold isClosing
    rw [hDone]
    rfl
  have hRecorded :
      crowd.WillRecord →
        crowd.studio.recorder.phase = .recording :=
    fun hRecord => hRecord.resolve_right (by simp [hStarting])
  have hClosed :
      crowd.WillClose → crowd.studio.isRecording = false :=
    fun hClose => hClose.resolve_right (by simp [hClosing])
  cases hHeads with
  | recording hActive hRecord _ =>
      simp [hRecorded hRecord, hActive]
  | idle hPhase hClose _ => simp [hPhase, hClosed hClose]
  | astray hRecord hClose =>
      simp [hRecorded hRecord, hClosed hClose]

/-
  Once all the calls are over, however their steps came
  between each other, an active session is always being
  recorded. The recorder and the store agree unless the last
  move that opened a session or stopped the recorder left both
  a start that had yet to reach the recorder and a stop that
  had yet to close the session: the session is then closed
  and the recorder goes on.
-/
theorem agrees_iff_endsTangled
    (settings : Capture.Settings)
    (now : Nat)
    (moves : List Move)
    (hDone : ((new settings now).after moves).errands = []) :
    (((new settings now).after moves).studio.isRecording =
          true →
        ((new settings now).after
          moves).studio.recorder.phase = .recording) ∧
      ((((new settings now).after
            moves).studio.recorder.phase = .recording ↔
          ((new settings now).after
            moves).studio.isRecording = true) ↔
        (new settings now).endsTangled false moves =
          false) := by
  have hHeads := (heads_new settings now).after moves
  have hArrived := hHeads.arrived hDone
  generalize (new settings now).endsTangled false moves =
    tangled at hArrived
  rw [hArrived.1]
  refine ⟨Or.inl, ?_⟩
  cases tangled with
  | false => simp
  | true => simp [hArrived.2 rfl]

/- Two stops that overlap, with a start before them. -/
def crossing : List Move :=
  [.start "login" .python (some "/a"), .stop, .stop,
    .proceed 2, .proceed 1, .proceed 1, .proceed 0,
    .proceed 0]

theorem agrees_iff_endsTangled_crossing :
    ((new {} 0).after (crossing.take 6)).errands =
        [.closeSession, .closeSession] ∧
      ((new {} 0).after crossing).errands = [] ∧
      (new {} 0).endsTangled false crossing = false ∧
      (((new {} 0).after crossing).studio.recorder.phase =
          .recording ↔
        ((new {} 0).after crossing).studio.isRecording =
          true) := by
  have hDone :
      ((new {} 0).after crossing).errands = [] := by
    decide
  have hTangled :
      (new {} 0).endsTangled false crossing = false := by
    decide
  have hAgrees := agrees_iff_endsTangled {} 0 crossing hDone
  exact ⟨by decide, hDone, hTangled, hAgrees.2.mpr hTangled⟩

/- A stop that overtakes the start whose session it closes. -/
def overtaking : List Move :=
  [.start "login" .python (some "/a"), .stop, .proceed 0,
    .proceed 0, .proceed 0]

theorem recording_without_session :
    ((new {} 0).after overtaking).errands = [] ∧
      ((new {} 0).after
        overtaking).studio.recorder.phase = .recording ∧
      ((new {} 0).after
        overtaking).studio.isRecording = false := by
  decide

end Crowd

end Clickstream
