import Mathlib.Data.List.Nodup
import Clickstream.Proofs.Capture.Candidates
import Clickstream.Proofs.Capture.Redaction

/-
  Origins: which command a recorded action comes from. Every
  recorded action has a command of its own that told of it,
  and what need not wait is recorded between all that was told
  before it and all that was told after it.

  Key definitions:
    * `Recorder.chronicle`
    * `Command.time?`, `Command.Tells`, `Command.IsImmediate`
    * `Image`: a recorded action with its origin
    * `Traced`: what holds of all images during a run

  Key theorems:
    * `Traced.fire`, `Traced.record`, `Traced.schedule`
    * `Recorder.exists_images_of_execute`
    * `Recorder.exists_images_of_start`
-/

namespace Clickstream

namespace Capture

------------------------------------------------------------
-- Commands
------------------------------------------------------------

namespace Command

/- The time of what a command tells of, if it tells anything. -/
def time? : Command → Option Nat
  | handle event => some event.timestamp
  | append action => some action.timestamp
  | _ => none

/-
  Whether a command tells of an action, before it is fit to be
  seen: the action is made elsewhere, or an event means it.
-/
inductive Tells (settings : Settings) :
    Command → Action → Prop where
  | appended (action : Action) :
      Tells settings (.append action) action
  | immediate
      {event : Event}
      {location : Option String}
      {action : Action}
      (hVerdict :
        settings.interpret location event.normalise =
          .record action) :
      Tells settings (.handle event) action
  | delayed
      {event : Event}
      {location : Option String}
      {key : TimerKey}
      {deadline : Nat}
      {action : Action}
      (hVerdict :
        settings.interpret location event.normalise =
          .settle key deadline action) :
      Tells settings (.handle event) action

/- Whether what a command tells of never waits. -/
def IsImmediate (settings : Settings) : Command → Prop
  | append _ => True
  | handle event =>
      ∀ location key deadline action,
        settings.interpret location event.normalise ≠
          .settle key deadline action
  | _ => False

end Command

/-
  The recorded actions of a run, each with the number of the
  command that recorded it; the first command has number `n`.
-/
def Recorder.chronicle
    (n : Nat)
    (r : Recorder) :
    List Command → List (Nat × Action)
  | [] => []
  | command :: rest =>
      (r.recorded command).map (fun action => (n, action)) ++
        (r.execute command).1.chronicle (n + 1) rest

------------------------------------------------------------
-- Times
------------------------------------------------------------

/- An action happens when its event does. -/
theorem timestamp_interpret
    (settings : Settings)
    (location : Option String)
    (event : Event) :
    (settings.interpret location event).Only
      (fun action => action.timestamp = event.timestamp) := by
  have hClick :
      ∀ (e : Element) (clicks button : Nat),
        (interpretClick e clicks button event.timestamp).Only
          (fun action =>
            action.timestamp = event.timestamp) := by
    intro e clicks button
    exact Verdict.only_ite trivial (Verdict.only_ite trivial rfl)
  have hChange :
      ∀ e : Element,
        (settings.interpretChange e event.timestamp).Only
          (fun action =>
            action.timestamp = event.timestamp) := by
    intro e
    exact Verdict.only_ite trivial (Verdict.only_ite rfl
      (Verdict.only_ite rfl (Verdict.only_ite rfl
        (Verdict.only_ite rfl trivial))))
  unfold Settings.interpret
  cases event.occurrence with
  | gesture gesture e =>
      cases gesture with
      | contextMenu => exact hClick e 1 2
      | input => exact hChange e
      | change => exact hChange e
      | focus => exact Verdict.only_ite rfl trivial
      | blur => exact Verdict.only_ite rfl trivial
      | mouseOver => exact Verdict.only_ite trivial rfl
      | submit => exact rfl
      | dragStart => exact rfl
      | drop => exact rfl
  | click e clicks button => exact hClick e clicks button
  | keyDown e key modifiers =>
      exact Verdict.only_ite rfl trivial
  | scroll target x y =>
      cases target with
      | none => exact rfl
      | some e =>
          show (scrollDraft (some e) event.timestamp).timestamp =
            event.timestamp
          unfold scrollDraft
          dsimp only
          split <;> rfl
  | mutation address => exact Verdict.only_ite trivial rfl
  | unload address => exact rfl

/- What a command tells of happens at its time. -/
theorem Command.Tells.time?_eq
    {settings : Settings}
    {command : Command}
    {action : Action}
    (hTells : command.Tells settings action) :
    command.time? = some action.timestamp := by
  cases hTells with
  | appended action => rfl
  | @immediate event location action hVerdict =>
      have hTime :=
        timestamp_interpret settings location event.normalise
      rw [hVerdict] at hTime
      exact congrArg some hTime.symm
  | @delayed event location key deadline action hVerdict =>
      have hTime :=
        timestamp_interpret settings location event.normalise
      rw [hVerdict] at hTime
      exact congrArg some hTime.symm

------------------------------------------------------------
-- Images
------------------------------------------------------------

/-
  A recorded action, the number of the command that told of
  it, and the number of the command that recorded it.
-/
structure Image where
  origin : Nat
  moment : Nat
  action : Action

/- A recorded action and the command that recorded it. -/
def Image.entry (image : Image) : Nat × Action :=
  (image.moment, image.action)

/- Whether the command with a number tells of an action. -/
def TellsAt
    (settings : Settings)
    (commands : List Command)
    (n : Nat)
    (action : Action) : Prop :=
  ∃ command,
    commands[n]? = some command ∧
      command.Tells settings action

/-
  Whether an image is what it seems: its origin came no later
  than its moment, tells of the recorded action, up to what is
  not fit to be seen, and has the same time.
-/
def Image.IsTrue
    (settings : Settings)
    (commands : List Command)
    (image : Image) : Prop :=
  image.origin ≤ image.moment ∧
    ∃ command told,
      commands[image.origin]? = some command ∧
        command.Tells settings told ∧
        image.action = settings.sanitise told ∧
        command.time? = some image.action.timestamp

/- Whether what the command with a number tells never waits. -/
def IsImmediateAt
    (settings : Settings)
    (commands : List Command)
    (n : Nat) : Prop :=
  ∃ command,
    commands[n]? = some command ∧ command.IsImmediate settings

/-
  Whether two images, of which the first was recorded first,
  stand in the order of their origins if need be: nothing is
  moved past an action that never waits.
-/
def IsInOrder
    (settings : Settings)
    (commands : List Command)
    (first second : Image) : Prop :=
  IsImmediateAt settings commands first.origin ∨
      IsImmediateAt settings commands second.origin →
    first.origin < second.origin

/-
  What holds when `count` commands of a run are done: the
  images are those recorded so far, and `waiting` is what
  still waits, each action with its origin.
-/
structure Traced
    (settings : Settings)
    (commands : List Command)
    (count : Nat)
    (waiting : List (Nat × Action))
    (images : List Image) : Prop where
  nodup :
    (images.map Image.origin ++ waiting.map Prod.fst).Nodup
  bound : ∀ image ∈ images, image.origin < count
  told : ∀ image ∈ images, image.IsTrue settings commands
  waits :
    ∀ w ∈ waiting,
      w.1 < count ∧ TellsAt settings commands w.1 w.2 ∧
        ¬ IsImmediateAt settings commands w.1
  ordered : images.Pairwise (IsInOrder settings commands)
  behind :
    ∀ image ∈ images,
      IsImmediateAt settings commands image.origin →
        ∀ w ∈ waiting, image.origin < w.1

namespace Traced

variable {settings : Settings}
variable {commands : List Command}
variable {count : Nat}
variable {waiting fired rest : List (Nat × Action)}
variable {images : List Image}
variable {command : Command}
variable {action : Action}

/- The image of a waiting action that is recorded. -/
def image
    (settings : Settings)
    (moment : Nat)
    (w : Nat × Action) : Image :=
  ⟨w.1, moment, settings.sanitise w.2⟩

/- An action that is told of has a true image. -/
theorem isTrue_image
    {moment : Nat}
    {w : Nat × Action}
    (hOrder : w.1 ≤ moment)
    (hTold : TellsAt settings commands w.1 w.2) :
    (image settings moment w).IsTrue settings commands := by
  rcases hTold with ⟨command, hCommand, hTells⟩
  exact ⟨hOrder, command, w.2, hCommand, hTells, rfl,
    hTells.time?_eq⟩

/- A number above all others is another one. -/
theorem nodup_append_of_lt
    {numbers : List Nat}
    (hNodup : numbers.Nodup)
    (hBound : ∀ n ∈ numbers, n < count) :
    (numbers ++ [count]).Nodup := by
  refine List.nodup_append.mpr
    ⟨hNodup, List.nodup_singleton _, ?_⟩
  intro n hn m hm hSame
  have hLess := hBound n hn
  rw [hSame, List.mem_singleton.mp hm] at hLess
  exact Nat.lt_irrefl _ hLess

/- Nothing is recorded and nothing waits at the beginning. -/
theorem nil
    (settings : Settings)
    (commands : List Command) :
    Traced settings commands 0 [] [] where
  nodup := List.nodup_nil
  bound := by simp
  told := by simp
  waits := by simp
  ordered := List.Pairwise.nil
  behind := by simp

/- A command that lets nothing wait may be counted as done. -/
theorem skip
    (hTraced : Traced settings commands count waiting images) :
    Traced settings commands (count + 1) waiting images where
  nodup := hTraced.nodup
  bound image hImage :=
    Nat.lt_succ_of_lt (hTraced.bound image hImage)
  told := hTraced.told
  waits w hw :=
    ⟨Nat.lt_succ_of_lt (hTraced.waits w hw).1,
      (hTraced.waits w hw).2⟩
  ordered := hTraced.ordered
  behind := hTraced.behind

/-
  Some of what waits fires, and some of that is recorded. What
  fires may come in any order: nothing that waited is
  immediate, and it all lies behind the immediate images.
-/
theorem fire
    {kept : List (Nat × Action)}
    (hTraced : Traced settings commands count waiting images)
    (hWaiting : (fired ++ rest).Perm waiting)
    (hKept : kept.Sublist fired) :
    Traced settings commands count rest
      (images ++ kept.map (image settings count)) := by
  have hFired : ∀ w ∈ kept, w ∈ waiting := fun w hw =>
    hWaiting.subset
      (List.mem_append_left _ (hKept.subset hw))
  have hRest : ∀ w ∈ rest, w ∈ waiting := fun w hw =>
    hWaiting.subset (List.mem_append_right _ hw)
  have hKeptRest : (kept ++ rest).Sublist (fired ++ rest) :=
    hKept.append_right rest
  have hAll :
      (images.map Image.origin ++
        (kept ++ rest).map Prod.fst).Nodup := by
    have hPerm :=
      (hWaiting.map Prod.fst).append_left
        (images.map Image.origin)
    have hNodup := hPerm.nodup_iff.mpr hTraced.nodup
    exact hNodup.sublist
      ((hKeptRest.map Prod.fst).append_left _)
  have hCases :
      ∀ i ∈ images ++ kept.map (image settings count),
        i ∈ images ∨
          ∃ w ∈ kept, i = image settings count w := by
    intro i hi
    rcases List.mem_append.mp hi with hOld | hNew
    · exact Or.inl hOld
    · rcases List.mem_map.mp hNew with ⟨w, hw, hSame⟩
      exact Or.inr ⟨w, hw, hSame.symm⟩
  constructor
  case nodup =>
    rw [List.map_append, List.map_map, List.append_assoc]
    rw [List.map_append] at hAll
    exact hAll
  case bound =>
    intro i hi
    rcases hCases i hi with hOld | ⟨w, hw, rfl⟩
    · exact hTraced.bound i hOld
    · exact (hTraced.waits w (hFired w hw)).1
  case told =>
    intro i hi
    rcases hCases i hi with hOld | ⟨w, hw, rfl⟩
    · exact hTraced.told i hOld
    · have hWaits := hTraced.waits w (hFired w hw)
      exact isTrue_image (Nat.le_of_lt hWaits.1) hWaits.2.1
  case waits =>
    intro w hw
    exact hTraced.waits w (hRest w hw)
  case ordered =>
    refine List.pairwise_append.mpr
      ⟨hTraced.ordered, ?_, ?_⟩
    · -- None of what fires together is immediate.
      refine List.pairwise_map.mpr
        (List.pairwise_of_forall_mem_list ?_)
      intro w hw v hv hImmediate
      rcases hImmediate with hFirst | hSecond
      · exact absurd hFirst
          (hTraced.waits w (hFired w hw)).2.2
      · exact absurd hSecond
          (hTraced.waits v (hFired v hv)).2.2
    · intro i hi j hj hImmediate
      rcases List.mem_map.mp hj with ⟨w, hw, rfl⟩
      rcases hImmediate with hFirst | hSecond
      · exact hTraced.behind i hi hFirst w (hFired w hw)
      · exact absurd hSecond
          (hTraced.waits w (hFired w hw)).2.2
  case behind =>
    intro i hi hImmediate w hw
    rcases hCases i hi with hOld | ⟨v, hv, rfl⟩
    · exact hTraced.behind i hOld hImmediate w (hRest w hw)
    · exact absurd hImmediate
        (hTraced.waits v (hFired v hv)).2.2

/-
  An action that never waits is recorded when nothing waits:
  every image before it has an earlier origin.
-/
theorem record
    (hTraced : Traced settings commands count [] images)
    (hTold : TellsAt settings commands count action) :
    Traced settings commands (count + 1) []
      (images ++ [image settings count (count, action)]) := by
  have hCases :
      ∀ i ∈ images ++ [image settings count (count, action)],
        i ∈ images ∨
          i = image settings count (count, action) := by
    intro i hi
    rcases List.mem_append.mp hi with hOld | hNew
    · exact Or.inl hOld
    · exact Or.inr (List.mem_singleton.mp hNew)
  constructor
  case nodup =>
    have hOld := hTraced.nodup
    rw [List.map_nil, List.append_nil] at hOld ⊢
    rw [List.map_append]
    apply nodup_append_of_lt hOld
    intro n hn
    rcases List.mem_map.mp hn with ⟨i, hi, rfl⟩
    exact hTraced.bound i hi
  case bound =>
    intro i hi
    rcases hCases i hi with hOld | rfl
    · exact Nat.lt_succ_of_lt (hTraced.bound i hOld)
    · exact Nat.lt_succ_self count
  case told =>
    intro i hi
    rcases hCases i hi with hOld | rfl
    · exact hTraced.told i hOld
    · exact isTrue_image (Nat.le_refl count) hTold
  case waits => simp
  case ordered =>
    refine List.pairwise_append.mpr
      ⟨hTraced.ordered, List.pairwise_singleton _ _, ?_⟩
    intro i hi j hj _
    rw [List.mem_singleton.mp hj]
    exact hTraced.bound i hi
  case behind => simp

/- An action begins to wait, and may displace another one. -/
theorem schedule
    (hTraced : Traced settings commands count waiting images)
    (hRest : rest.Sublist waiting)
    (hTold : TellsAt settings commands count action)
    (hWaits : ¬ IsImmediateAt settings commands count) :
    Traced settings commands (count + 1)
      (rest ++ [(count, action)]) images := by
  have hCases :
      ∀ w ∈ rest ++ [(count, action)],
        w ∈ waiting ∨ w = (count, action) := by
    intro w hw
    rcases List.mem_append.mp hw with hOld | hNew
    · exact Or.inl (hRest.subset hOld)
    · exact Or.inr (List.mem_singleton.mp hNew)
  have hBound :
      ∀ n ∈ images.map Image.origin ++ rest.map Prod.fst,
        n < count := by
    intro n hn
    rcases List.mem_append.mp hn with hImage | hWaiting
    · rcases List.mem_map.mp hImage with ⟨i, hi, rfl⟩
      exact hTraced.bound i hi
    · rcases List.mem_map.mp hWaiting with ⟨w, hw, rfl⟩
      exact (hTraced.waits w (hRest.subset hw)).1
  constructor
  case nodup =>
    have hOld :
        (images.map Image.origin ++
          rest.map Prod.fst).Nodup :=
      hTraced.nodup.sublist ((hRest.map _).append_left _)
    rw [List.map_append, ← List.append_assoc]
    exact nodup_append_of_lt hOld hBound
  case bound =>
    intro i hi
    exact Nat.lt_succ_of_lt (hTraced.bound i hi)
  case told => exact hTraced.told
  case waits =>
    intro w hw
    rcases hCases w hw with hOld | rfl
    · have hWaits := hTraced.waits w hOld
      exact ⟨Nat.lt_succ_of_lt hWaits.1, hWaits.2⟩
    · exact ⟨Nat.lt_succ_self count, hTold, hWaits⟩
  case ordered => exact hTraced.ordered
  case behind =>
    intro i hi hImmediate w hw
    rcases hCases w hw with hOld | rfl
    · exact hTraced.behind i hi hImmediate w hOld
    · exact hTraced.bound i hi

end Traced

------------------------------------------------------------
-- Operations
------------------------------------------------------------

namespace Recorder

variable {settings : Settings}
variable {commands : List Command}
variable {count : Nat}
variable {waiting : List (Nat × Action)}
variable {images : List Image}
variable {r : Recorder}

/-
  Whether the images of a run are traced when `count` of its
  commands are done and the recorder is in this state. The
  origins of what waits are kept beside it, in timers that
  are the recorder's own but for them.
-/
def IsTraced
    (settings : Settings)
    (commands : List Command)
    (count : Nat)
    (images : List Image)
    (r : Recorder) : Prop :=
  r.settings = settings ∧
    ∃ tagged : Timers TimerKey (Nat × Action),
      r.timers = tagged.mapValues Prod.snd ∧
        Traced settings commands count
          (tagged.pending.map Pending.value) images

theorem IsTraced.of_keeps
    {s : Recorder}
    (hTraced : r.IsTraced settings commands count images)
    (hKeeps : Keeps r s) :
    s.IsTraced settings commands count images := by
  rcases hTraced with ⟨hSettings, tagged, hTimers, hImages⟩
  exact ⟨hKeeps.settings.trans hSettings, tagged,
    hKeeps.timers.trans hTimers, hImages⟩

/-
  Settling what fires gives an image to each action that is
  recorded; what is not recorded is forgotten.
-/
theorem exists_images_of_settleAll
    {rest : Timers TimerKey (Nat × Action)}
    {entries : List (TimerKey × (Nat × Action))}
    (hSettings : r.settings = settings)
    (hTimers : r.timers = rest.mapValues Prod.snd)
    (hTraced :
      Traced settings commands count waiting images)
    (hWaiting :
      (entries.map Prod.snd ++
        rest.pending.map Pending.value).Perm waiting) :
    ∃ more,
      (r.settleAll
          (entries.map (fun e => (e.1, e.2.2)))).1.IsTraced
        settings commands count (images ++ more) ∧
      more.map Image.entry =
        (r.settleAll
          (entries.map (fun e => (e.1, e.2.2)))).2.map
            (fun action => (count, action)) := by
  have hSublist :=
    r.sublist_judgeAll
      ((entries.map (fun e => (e.1, e.2.2))).map
        Candidate.ofEntry)
  have hActions :
      ((entries.map (fun e => (e.1, e.2.2))).map
          Candidate.ofEntry).map
          (fun candidate =>
            r.settings.sanitise candidate.action) =
        (entries.map Prod.snd).map
          (fun w => settings.sanitise w.2) := by
    rw [List.map_map, List.map_map, List.map_map, hSettings]
    rfl
  rw [hActions, judgeAll_map_ofEntry] at hSublist
  rcases List.sublist_map_iff.mp hSublist with
    ⟨kept, hKept, hRecorded⟩
  have hFired := hTraced.fire hWaiting hKept
  have hKeeps :=
    r.keeps_settleAll (entries.map (fun e => (e.1, e.2.2)))
  refine ⟨kept.map (Traced.image settings count), ?_, ?_⟩
  · exact ⟨hKeeps.settings.trans hSettings, rest,
      hKeeps.timers.trans hTimers, hFired⟩
  · rw [hRecorded, List.map_map, List.map_map]
    rfl

theorem exists_images_of_poll
    (hTraced : r.IsTraced settings commands count images)
    (now : Nat) :
    ∃ more,
      (r.poll now).1.IsTraced settings commands count
        (images ++ more) ∧
      more.map Image.entry =
        (r.poll now).2.map (fun action => (count, action)) := by
  rcases hTraced with ⟨hSettings, tagged, hTimers, hImages⟩
  have hDue :
      (r.timers.takeDue now).2 =
        (tagged.takeDue now).2.map
          (fun e => (e.1, e.2.2)) := by
    rw [hTimers, Timers.takeDue_mapValues]
  have hLater :
      r.timers.later now =
        (tagged.later now).mapValues Prod.snd := by
    rw [hTimers, Timers.later_mapValues]
  have hWaiting :
      ((tagged.takeDue now).2.map Prod.snd ++
          (tagged.later now).pending.map Pending.value).Perm
        (tagged.pending.map Pending.value) := by
    have hPerm :=
      (tagged.perm_due_append_later now).map Pending.value
    rw [List.map_append] at hPerm
    unfold Timers.takeDue
    rw [List.map_map]
    exact hPerm
  rw [poll_eq, hDue]
  exact exists_images_of_settleAll hSettings hLater hImages
    hWaiting

/- Behind a flush nothing waits. -/
theorem exists_images_of_flush
    (hTraced : r.IsTraced settings commands count images) :
    ∃ more,
      Traced settings commands count [] (images ++ more) ∧
      more.map Image.entry =
        r.flush.2.map (fun action => (count, action)) := by
  rcases hTraced with ⟨hSettings, tagged, hTimers, hImages⟩
  have hDrain :
      r.timers.drain.2 =
        tagged.drain.2.map (fun e => (e.1, e.2.2)) := by
    rw [hTimers, Timers.drain_mapValues]
  have hClear :
      r.timers.clear = tagged.clear.mapValues Prod.snd := by
    rw [hTimers, Timers.clear_mapValues]
  have hWaiting :
      (tagged.drain.2.map Prod.snd ++
          tagged.clear.pending.map Pending.value).Perm
        (tagged.pending.map Pending.value) := by
    rw [tagged.drain_eq_drawn, List.map_map]
    unfold Timers.clear
    rw [List.map_nil, List.append_nil]
    exact tagged.perm_drawn.map Pending.value
  have hImages :=
    exists_images_of_settleAll
      (r := { r with timers := r.timers.clear })
      hSettings hClear hImages hWaiting
  rw [← hDrain] at hImages
  rcases hImages with ⟨more, ⟨_, rest, hRest, hMore⟩, hEntries⟩
  have hNone :
      (rest.mapValues Prod.snd).pending = [] := by
    rw [← hRest, (keeps_settleAll _ _).timers]
    rfl
  have hEmpty : rest.pending = [] :=
    List.map_eq_nil_iff.mp hNone
  rw [hEmpty] at hMore
  exact ⟨more, hMore, hEntries⟩

/- A recorder in which nothing waits needs no origins. -/
theorem isTraced_of_empty
    (hSettings : r.settings = settings)
    (hPending : r.timers.pending = [])
    (hTraced : Traced settings commands count [] images) :
    r.IsTraced settings commands count images := by
  refine ⟨hSettings, ⟨[], r.timers.nextTicket⟩, ?_, hTraced⟩
  rw [Timers.mapValues, List.map_nil, ← hPending]

theorem exists_images_of_recordInOrder
    {action : Action}
    (hTraced : r.IsTraced settings commands count images)
    (hTold : TellsAt settings commands count action) :
    ∃ more,
      (r.recordInOrder action).1.IsTraced settings commands
        (count + 1) (images ++ more) ∧
      more.map Image.entry =
        (r.recordInOrder action).2.map
          (fun action => (count, action)) := by
  have hSettings : r.flush.1.settings = settings :=
    (keeps_settleAll _ _).settings.trans hTraced.1
  have hPending := r.pending_recordInOrder action
  have hAfter :
      (r.recordInOrder action).1.settings = settings :=
    (r.settings_recordInOrder action).trans hTraced.1
  rcases exists_images_of_flush hTraced with
    ⟨flushed, hFlushed, hEntries⟩
  by_cases hAccepts : r.flush.1.Accepts action
  · refine
      ⟨flushed ++ [Traced.image settings count (count, action)],
        ?_, ?_⟩
    · rw [← List.append_assoc]
      exact isTraced_of_empty hAfter hPending
        (hFlushed.record hTold)
    · rw [recordInOrder_eq, record_of_accepts hAccepts,
        hSettings, List.map_append, List.map_append, hEntries]
      rfl
  · refine ⟨flushed, ?_, ?_⟩
    · exact isTraced_of_empty hAfter hPending hFlushed.skip
    · rw [recordInOrder_eq, record_of_not_accepts hAccepts,
        hEntries]
      simp

------------------------------------------------------------
-- Commands
------------------------------------------------------------

/- An event that is acted upon is the origin of at most one. -/
theorem exists_images_of_react
    {event : Event}
    (hCommand : commands[count]? = some (.handle event))
    (hTraced : r.IsTraced settings commands count images) :
    ∃ more,
      (r.react event.normalise).1.IsTraced settings commands
        (count + 1) (images ++ more) ∧
      more.map Image.entry =
        (r.react event.normalise).2.map
          (fun action => (count, action)) := by
  have hSettings := hTraced.1
  unfold react
  cases hVerdict :
      r.settings.interpret r.location event.normalise with
  | ignore =>
      rcases hTraced with
        ⟨hSettings, tagged, hTimers, hImages⟩
      refine ⟨[], ⟨hSettings, tagged, hTimers, ?_⟩, rfl⟩
      rw [List.append_nil]
      exact hImages.skip
  | settle key deadline action =>
      rw [hSettings] at hVerdict
      rcases hTraced with
        ⟨hSettings, tagged, hTimers, hImages⟩
      have hWaits :
          ¬ IsImmediateAt settings commands count := by
        rintro ⟨command, hOther, hImmediate⟩
        rw [hCommand] at hOther
        cases hOther
        exact hImmediate _ _ _ _ hVerdict
      have hRest :
          ((tagged.cancel key).pending.map
              Pending.value).Sublist
            (tagged.pending.map Pending.value) :=
        List.filter_sublist.map Pending.value
      have hNext :=
        hImages.schedule hRest
          ⟨_, hCommand, .delayed hVerdict⟩ hWaits
      refine
        ⟨[], ⟨hSettings,
          tagged.schedule key deadline (count, action),
          ?_, ?_⟩, rfl⟩
      · rw [← Timers.schedule_mapValues, ← hTimers]
      · rw [List.append_nil]
        unfold Timers.schedule
        rw [List.map_append]
        exact hNext
  | record action =>
      rw [hSettings] at hVerdict
      have hKeeps := r.keeps_observe event.normalise
      exact exists_images_of_recordInOrder
        (hTraced.of_keeps hKeeps)
        ⟨_, hCommand, .immediate hVerdict⟩

/-
  Each command that goes on recording keeps what holds of the
  images, and adds the images of what it records.
-/
theorem exists_images_of_execute
    {command : Command}
    (hCommand : commands[count]? = some command)
    (hOngoing : command.IsOngoing)
    (hPhase : r.phase = .recording)
    (hTraced : r.IsTraced settings commands count images) :
    ∃ more,
      (r.execute command).1.IsTraced settings commands
        (count + 1) (images ++ more) ∧
      more.map Image.entry =
        (r.recorded command).map
          (fun action => (count, action)) := by
  have hSkip :
      ∀ {s : Recorder} {others : List Image},
        s.IsTraced settings commands count others →
          s.IsTraced settings commands (count + 1) others := by
    rintro s others ⟨hSettings, tagged, hTimers, hImages⟩
    exact ⟨hSettings, tagged, hTimers, hImages.skip⟩
  unfold recorded
  cases command with
  | start address now => exact hOngoing.elim
  | stop => exact hOngoing.elim
  | poll now =>
      rcases exists_images_of_poll hTraced now with
        ⟨more, hMore, hEntries⟩
      exact ⟨more, hSkip hMore, hEntries⟩
  | flush =>
      rcases exists_images_of_flush hTraced with
        ⟨more, hMore, hEntries⟩
      have hSettings : r.flush.1.settings = settings :=
        (keeps_settleAll _ _).settings.trans hTraced.1
      have hFlushed :=
        isTraced_of_empty hSettings r.pending_flush hMore
      exact ⟨more, hSkip hFlushed, hEntries⟩
  | append action =>
      rw [execute_append_of_recording hPhase]
      exact exists_images_of_recordInOrder hTraced
        ⟨_, hCommand, .appended action⟩
  | handle event =>
      rw [execute_handle_of_recording hPhase]
      rcases exists_images_of_poll hTraced event.timestamp with
        ⟨fired, hFired, hFiredEntries⟩
      rcases exists_images_of_react hCommand hFired with
        ⟨made, hMade, hMadeEntries⟩
      refine ⟨fired ++ made, ?_, ?_⟩
      · rw [← List.append_assoc]
        exact hMade
      · rw [List.map_append, hFiredEntries, hMadeEntries,
          Option.getD_some, List.map_append]

/-
  The images of a whole run. The induction is on the commands
  that are still to come; those that are done only matter by
  what holds of their images.
-/
theorem exists_images_of_after
    (before : List Command)
    {rest : List Command}
    (hCommands : commands = before ++ rest)
    (hOngoing : ∀ command ∈ rest, command.IsOngoing)
    (hPhase : r.phase = .recording)
    (hTraced :
      r.IsTraced settings commands before.length images) :
    ∃ more,
      (r.after rest).IsTraced settings commands
        commands.length (images ++ more) ∧
      more.map Image.entry =
        r.chronicle before.length rest := by
  induction rest generalizing before r images with
  | nil =>
      rw [List.append_nil] at hCommands
      rw [hCommands] at hTraced ⊢
      exact ⟨[], by rw [List.append_nil]; exact hTraced, rfl⟩
  | cons command rest ih =>
      have hFirst : commands[before.length]? = some command := by
        rw [hCommands, List.getElem?_append_right
          (Nat.le_refl _), Nat.sub_self]
        rfl
      have hNow := hOngoing command List.mem_cons_self
      rcases exists_images_of_execute hFirst hNow hPhase
          hTraced with ⟨made, hMade, hMadeEntries⟩
      have hSplit : commands = (before ++ [command]) ++ rest := by
        rw [hCommands, List.append_assoc]
        rfl
      have hNext :
          (r.execute command).1.IsTraced settings commands
            (before ++ [command]).length (images ++ made) := by
        rw [List.length_append]
        exact hMade
      rcases ih (before ++ [command]) hSplit
          (fun other hOther =>
            hOngoing other (List.mem_cons_of_mem _ hOther))
          ((phase_execute hNow).trans hPhase) hNext with
        ⟨more, hMore, hMoreEntries⟩
      refine ⟨made ++ more, ?_, ?_⟩
      · rw [← List.append_assoc]
        exact hMore
      · rw [List.map_append, hMadeEntries, hMoreEntries,
          List.length_append]
        rfl

/-
  Every action recorded after a start has an origin of its
  own, a command that tells of it at its time and came no
  later than the one that recorded it. Whatever is recorded
  before or after an action that never waits was told before
  or after it, too.
-/
theorem exists_images_of_start
    (r : Recorder)
    (address : Option String)
    (now : Nat)
    (commands : List Command)
    (hOngoing : ∀ command ∈ commands, command.IsOngoing) :
    ∃ images : List Image,
      images.map Image.entry =
          (r.execute (.start address now)).1.chronicle 0
            commands ∧
        (images.map Image.origin).Nodup ∧
        (∀ image ∈ images,
          image.IsTrue r.settings commands) ∧
        images.Pairwise (IsInOrder r.settings commands) := by
  have hKeeps :
      Keeps (r.begun address)
        (r.execute (.start address now)).1 := by
    cases address with
    | none => exact Keeps.rfl
    | some url =>
        rw [execute_start_some]
        exact keeps_record _ _
  have hBegun :
      (r.begun address).IsTraced r.settings commands 0 [] :=
    isTraced_of_empty rfl rfl (Traced.nil _ _)
  rcases exists_images_of_after []
      (List.nil_append commands).symm hOngoing
      hKeeps.phase (hBegun.of_keeps hKeeps) with
    ⟨images, ⟨_, _, _, hImages⟩, hEntries⟩
  rw [List.nil_append] at hImages
  exact ⟨images, hEntries,
    hImages.nodup.sublist (List.sublist_append_left _ _),
    hImages.told, hImages.ordered⟩

/-
  A page is scrolled, moves on, and unloads; the scroll waits
  until the page moves on.
-/
def journey : List Command :=
  [.handle ⟨.scroll none 0 500, 5⟩,
    .handle ⟨.mutation "/a", 10⟩, .poll 20,
    .append (Action.navigate "/b" none 30),
    .handle ⟨.unload "/c", 25⟩, .flush]

theorem exists_images_of_journey :
    (∀ command ∈ journey, command.IsOngoing) ∧
      (((new {}).execute (.start none 0)).1.chronicle 0
          journey).map (fun entry => (entry.1, entry.2.kind)) =
        [(1, .scroll), (1, .navigate), (3, .navigate),
          (4, .navigate)] ∧
      ∃ images : List Image,
        images.map Image.entry =
            ((new {}).execute (.start none 0)).1.chronicle 0
              journey ∧
          (images.map Image.origin).Nodup ∧
          (∀ image ∈ images, image.IsTrue {} journey) ∧
          images.Pairwise (IsInOrder {} journey) := by
  have hOngoing :
      ∀ command ∈ journey, command.IsOngoing := by
    simp [journey, Command.IsOngoing]
  exact ⟨hOngoing, by decide,
    (new {}).exists_images_of_start none 0 journey hOngoing⟩

end Recorder

end Capture

end Clickstream
