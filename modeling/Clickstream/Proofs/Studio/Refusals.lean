import Clickstream.Service.Server
import Clickstream.Proofs.Studio.Delivery

/-
  Refusals: what is turned down, and that nothing comes of
  it. Whatever was asked of a studio before, it turns down
  just what has no name, comes at the wrong time, or cannot be
  read. It does so before it changes anything, so that all
  that follows is as if that had not been asked.

  Key definitions:
    * `Event.parts`: the parts of a written batch
    * `Studio.Demand`: a call, or a batch of events as it
      is written
    * `Studio.Verdict`, `Studio.Verdict.isRefusal`
    * `Studio.meet`, `Studio.verdicts`
    * `Studio.Refuses`

  Key theorems:
    * `Event.batchOfJson?_eq_none_iff`
    * `Server.answer_events_of_illegible`
    * `Studio.meet_of_refuses`
    * `Studio.Agrees.isRefusal_iff`
    * `Studio.verdicts_of_refuses`
-/

namespace Clickstream

open Capture (Recorder)

------------------------------------------------------------
-- Written Batches
------------------------------------------------------------

namespace Event

/- Read one part of a batch as an event. -/
def ofPart? : Json → Option Event :=
  ofJsonWith? Kind.ofNameOrNumber?

/-
  The parts of a batch: the items of an array, unless the
  array is the record of one event.
-/
def parts (value : Json) : List Json :=
  match ofPart? value, value with
  | none, .array items => items
  | _, _ => [value]

/- A list can be read if each of its items can. -/
theorem mapM_eq_none_iff {items : List Json} :
    items.mapM ofPart? = none ↔
      ∃ item ∈ items, ofPart? item = none := by
  induction items with
  | nil => simp
  | cons item items ih =>
      rw [List.mapM_cons]
      cases hItem : ofPart? item with
      | none => simp [hItem]
      | some event =>
          have hRest :
              items.mapM ofPart? = none ↔
                ∃ other ∈ item :: items,
                  ofPart? other = none := by
            rw [ih]
            simp [hItem]
          rw [← hRest]
          cases items.mapM ofPart? <;> simp

/- A batch is read as an array first, then as one event. -/
theorem batchOfJson?_eq_or (value : Json) :
    batchOfJson? value =
      (value.listOf? ofPart?).or
        ((ofPart? value).map ([·])) := by
  unfold batchOfJson?
  have hPart : ofJsonWith? Kind.ofNameOrNumber? = ofPart? :=
    rfl
  rw [hPart]
  dsimp only
  cases value.listOf? ofPart? <;> rfl

/- A batch can be read just if each of its parts can. -/
theorem batchOfJson?_eq_none_iff {value : Json} :
    batchOfJson? value = none ↔
      ∃ part ∈ parts value, ofPart? part = none := by
  rw [batchOfJson?_eq_or]
  cases hWhole : ofPart? value with
  | some event =>
      have hParts : parts value = [value] := by
        unfold parts
        rw [hWhole]
      rw [hParts]
      cases value.listOf? ofPart? <;> simp [hWhole]
  | none =>
      cases value with
      | array items =>
          have hParts : parts (.array items) = items := by
            unfold parts
            rw [hWhole]
          rw [hParts, ← mapM_eq_none_iff]
          dsimp only [Json.listOf?]
          cases items.mapM ofPart? <;> simp
      | _ => simp [parts, hWhole, Json.listOf?]

end Event

------------------------------------------------------------
-- Bodies of Requests
------------------------------------------------------------

/-
  A text does not fit if it starts with a batch of which some
  part cannot be read.
-/
theorem Event.readFront_of_illegible
    {text : String}
    {value : Json}
    {rest : List Char}
    (hValue :
      Json.readValue
          ((Json.skipGap text.toList).length + 1)
          Json.maxDepth (Json.skipGap text.toList) =
        some (value, rest))
    (hPart :
      ∃ part ∈ parts value, ofPart? part = none) :
    (Json.Shape.ofWhole batchOfJson?).readFront text =
      .error .misfit := by
  have hNone := batchOfJson?_eq_none_iff.mpr hPart
  have hMisfit : (batchOfJson? value).isSome ≠ true := by
    simp [hNone]
  unfold Json.Shape.readFront Json.Shape.ofWhole
  dsimp only
  rw [Nat.mul_succ, Json.Shape.readAt]
  unfold Json.readWhole
  rw [hValue]
  exact if_neg hMisfit

theorem Request.readBody_of_error
    {α : Type}
    {request : Request}
    {shape : Json.Shape}
    {mistake : Json.Fault}
    (hFront : shape.readFront request.body = .error mistake)
    (read : Json → Option α) :
    ∃ fault, request.readBody shape read = .error fault := by
  unfold readBody
  rw [hFront]
  dsimp only
  by_cases hType :
      (request.header? "content-type").map
          Service.isJsonType ≠
        some true
  · exact ⟨.notAnnounced, if_pos hType⟩
  · rw [if_neg hType]
    by_cases hLong :
        Service.longestBody < request.body.utf8ByteSize
    · exact ⟨.tooLong, if_pos hLong⟩
    · exact ⟨.unreadable mistake, if_neg hLong⟩

/-
  A request whose body holds such a batch is turned down
  before it gets to the studio, and the service with its
  listeners stays as it is.
-/
theorem Server.answer_events_of_illegible
    {request : Request}
    {value : Json}
    {rest : List Char}
    (hValue :
      Json.readValue
          ((Json.skipGap request.body.toList).length + 1)
          Json.maxDepth (Json.skipGap request.body.toList) =
        some (value, rest))
    (hPart :
      ∃ part ∈ Event.parts value, Event.ofPart? part = none)
    (server : Server)
    (time : String) :
    ∃ fault : BodyFault,
      server.answer time request .events =
        ⟨server, fault.status, none⟩ := by
  have hFront := Event.readFront_of_illegible hValue hPart
  rcases Request.readBody_of_error hFront
      Event.batchOfJson? with
    ⟨fault, hBody⟩
  refine ⟨fault, ?_⟩
  dsimp only [answer, withBody]
  rw [hBody]

------------------------------------------------------------
-- Demands
------------------------------------------------------------

namespace Studio

/-
  What is demanded of a studio: a call, or a batch of events
  that has still to be read.
-/
inductive Demand where
  | call (made : Call)
  | batch (value : Json)

/- The call that is made, if the demand can be read. -/
def Demand.call? : Demand → Option Call
  | .call made => some made
  | .batch value => (Event.batchOfJson? value).map .submit

/- What the studio says to a demand. -/
inductive Verdict where
  | session (given : Session)
  | count (events : Nat)
  | taken (accepted : Bool)
  | done
  | fault (reason : Fault)
  | unreadable
deriving DecidableEq

namespace Verdict

/- Whether a demand was turned down. -/
def isRefusal : Verdict → Bool
  | .fault _ => true
  | .unreadable => true
  | .taken accepted => !accepted
  | _ => false

/- An answer or a fault as a verdict. -/
def ofResult
    {α : Type}
    (answer : α → Verdict) : Except Fault α → Verdict
  | .ok result => answer result
  | .error reason => .fault reason

end Verdict

/- What the studio says to a call. -/
def judge (studio : Studio) : Call → Verdict
  | .start fileName language startUrl =>
      .ofResult .session
        (studio.start fileName language startUrl).result
  | .stop => .ofResult .session studio.stop.result
  | .submit events =>
      .ofResult .count (studio.submit events).result
  | .append action =>
      .ofResult .taken (studio.append action).result
  | .advance duration =>
      .ofResult (fun _ => .done)
        (studio.advance duration).result
  | .lapse _ => .done

/-
  What a demand leads to: the state afterwards, the verdict,
  and what listeners heard.
-/
structure Reaction where
  studio : Studio
  verdict : Verdict
  heard : List Action := []

/- Meet a demand. -/
def meet
    (studio : Studio)
    (demand : Demand) : Reaction :=
  match demand.call? with
  | none => { studio := studio, verdict := .unreadable }
  | some call =>
      { studio := (studio.perform call).1
        verdict := studio.judge call
        heard := (studio.perform call).2 }

/- The studio after demands. -/
def afterAll (studio : Studio) : List Demand → Studio
  | [] => studio
  | demand :: rest =>
      (studio.meet demand).studio.afterAll rest

/- The verdicts on demands, with what was heard at each. -/
def verdicts
    (studio : Studio) :
    List Demand → List (Verdict × List Action)
  | [] => []
  | demand :: rest =>
      let reaction := studio.meet demand
      (reaction.verdict, reaction.heard) ::
        reaction.studio.verdicts rest

variable {studio : Studio}
variable {before : List Action}
variable {demand : Demand}
variable {verdict : Verdict}

/- Demands that can be read are calls, the others nothing. -/
theorem afterAll_eq_after
    (studio : Studio)
    (demands : List Demand) :
    studio.afterAll demands =
      studio.after (demands.filterMap Demand.call?) := by
  induction demands generalizing studio with
  | nil => rfl
  | cons demand demands ih =>
      rw [afterAll, ih]
      unfold meet
      cases hCall : demand.call? with
      | none => rw [List.filterMap_cons_none hCall]
      | some call =>
          rw [List.filterMap_cons_some hCall]
          rfl

theorem afterAll_append
    (studio : Studio)
    (earlier later : List Demand) :
    studio.afterAll (earlier ++ later) =
      (studio.afterAll earlier).afterAll later := by
  induction earlier generalizing studio with
  | nil => rfl
  | cons demand earlier ih => exact ih _

theorem verdicts_append
    (studio : Studio)
    (earlier later : List Demand) :
    studio.verdicts (earlier ++ later) =
      studio.verdicts earlier ++
        (studio.afterAll earlier).verdicts later := by
  induction earlier generalizing studio with
  | nil => rfl
  | cons demand earlier ih =>
      exact congrArg (_ :: ·) (ih _)

/- There is one verdict on each demand. -/
@[simp]
theorem length_verdicts
    (studio : Studio)
    (demands : List Demand) :
    (studio.verdicts demands).length = demands.length := by
  induction demands generalizing studio with
  | nil => rfl
  | cons demand demands ih =>
      exact congrArg (· + 1) (ih _)

------------------------------------------------------------
-- What Is Turned Down
------------------------------------------------------------

/-
  What a studio turns down, and with which words: a start
  without a name, a start while a session is active, a stop
  and an action without one, and a batch with a part that is
  no event.
-/
inductive Refuses (studio : Studio) : Demand → Verdict → Prop
  | unnamed
      (fileName : String)
      (language : Language)
      (startUrl : Option String)
      (hBlank : Text.isBlankText fileName = true) :
      Refuses studio (.call (.start fileName language startUrl))
        (.fault .nameRequired)
  | started
      (fileName : String)
      (language : Language)
      (startUrl : Option String)
      (active : Session)
      (hNamed : Text.isBlankText fileName = false)
      (hActive : studio.outlet.active? = some active) :
      Refuses studio (.call (.start fileName language startUrl))
        (.fault (.sessionAlreadyActive active.number))
  | stopped
      (hActive : studio.outlet.active? = none) :
      Refuses studio (.call .stop) (.fault .noActiveSession)
  | unattended
      (action : Action)
      (hActive : studio.outlet.active? = none) :
      Refuses studio (.call (.append action)) (.taken false)
  | illegible
      (value : Json)
      (hPart :
        ∃ part ∈ Event.parts value,
          Event.ofPart? part = none) :
      Refuses studio (.batch value) .unreadable

theorem Refuses.isRefusal
    (hRefuses : studio.Refuses demand verdict) :
    verdict.isRefusal = true := by
  cases hRefuses <;> rfl

/- A start without a name is refused. -/
theorem start_of_isBlankText
    {fileName : String}
    (hBlank : Text.isBlankText fileName = true)
    (language : Language)
    (startUrl : Option String) :
    studio.start fileName language startUrl =
      studio.refuse .nameRequired := by
  unfold start Text.nonBlank
  rw [if_pos hBlank]

/- So is one while a session is active. -/
theorem start_of_active
    {fileName : String}
    {active : Session}
    (hNamed : Text.isBlankText fileName = false)
    (hActive : studio.outlet.active? = some active)
    (language : Language)
    (startUrl : Option String) :
    studio.start fileName language startUrl =
      studio.refuse (.sessionAlreadyActive active.number) := by
  have hOpen (name : String) (address : Option String) :
      studio.openSession name language address =
        .error (.sessionAlreadyActive active.number) := by
    apply openSession_of_error
    unfold Store.openSession
    rw [hActive]
  unfold start Text.nonBlank
  rw [if_neg (by simp [hNamed])]
  dsimp only
  rw [hOpen]

theorem stop_of_not_active
    (hActive : studio.outlet.active? = none) :
    studio.stop = studio.refuse .noActiveSession := by
  unfold stop
  rw [isRecording_of_not_active hActive]
  rfl

theorem append_of_not_active
    (hActive : studio.outlet.active? = none)
    (action : Action) :
    studio.append action =
      { studio := studio, result := .ok false } := by
  unfold append
  rw [isRecording_of_not_active hActive]
  rfl

/- Whatever is turned down leaves the studio as it is. -/
theorem meet_of_refuses
    (hRefuses : studio.Refuses demand verdict) :
    studio.meet demand = ⟨studio, verdict, []⟩ := by
  cases hRefuses with
  | unnamed fileName language startUrl hBlank =>
      dsimp only [meet, Demand.call?, perform, judge]
      rw [start_of_isBlankText hBlank]
      rfl
  | started fileName language startUrl active hNamed hActive =>
      dsimp only [meet, Demand.call?, perform, judge]
      rw [start_of_active hNamed hActive]
      rfl
  | stopped hActive =>
      dsimp only [meet, Demand.call?, perform, judge]
      rw [stop_of_not_active hActive]
      rfl
  | unattended action hActive =>
      dsimp only [meet, Demand.call?, perform, judge]
      rw [append_of_not_active hActive]
      rfl
  | illegible value hPart =>
      have hNone := Event.batchOfJson?_eq_none_iff.mpr hPart
      dsimp only [meet, Demand.call?]
      rw [hNone]
      rfl

------------------------------------------------------------
-- What Is Not Turned Down
------------------------------------------------------------

theorem result_start_of_not_active
    {fileName : String}
    (hNamed : Text.isBlankText fileName = false)
    (hActive : studio.outlet.active? = none)
    (language : Language)
    (startUrl : Option String) :
    ∃ session,
      (studio.start fileName language startUrl).result =
        .ok session := by
  unfold start openSession Store.openSession Text.nonBlank
  rw [if_neg (by simp [hNamed]), hActive]
  exact ⟨_, rfl⟩

theorem exists_refuses_start
    {fileName : String}
    {language : Language}
    {startUrl : Option String}
    (hRefusal :
      (studio.judge
        (.start fileName language startUrl)).isRefusal =
          true) :
    ∃ verdict,
      studio.Refuses
        (.call (.start fileName language startUrl))
        verdict := by
  cases hBlank : Text.isBlankText fileName with
  | true => exact ⟨_, .unnamed _ _ _ hBlank⟩
  | false =>
      cases hActive : studio.outlet.active? with
      | some active =>
          exact ⟨_, .started _ _ _ _ hBlank hActive⟩
      | none =>
          rcases result_start_of_not_active hBlank hActive
              language startUrl with
            ⟨session, hResult⟩
          dsimp only [judge] at hRefusal
          rw [hResult] at hRefusal
          cases hRefusal

/-
  Where store and recorder agree, an action that comes to an
  active session is taken.
-/
theorem Agrees.result_append
    {active : Session}
    (hAgrees : studio.Agrees before)
    (hActive : studio.outlet.active? = some active)
    (action : Action) :
    (studio.append action).result = .ok true := by
  have hRecording : studio.isRecording = true :=
    Option.isSome_iff_exists.mpr ⟨active, hActive⟩
  have hPhase := hAgrees.phase.mp hRecording
  unfold append Station.append Recorder.append?
  rw [if_pos hRecording, hPhase]
  rfl

/- A refusal has one of the reasons. -/
theorem Agrees.exists_refuses
    (hAgrees : studio.Agrees before)
    (hRefusal :
      (studio.meet demand).verdict.isRefusal = true) :
    ∃ verdict, studio.Refuses demand verdict := by
  cases demand with
  | batch value =>
      cases hBatch : Event.batchOfJson? value with
      | none =>
          have hPart :=
            Event.batchOfJson?_eq_none_iff.mp hBatch
          exact ⟨_, .illegible value hPart⟩
      | some events =>
          dsimp only [meet, Demand.call?] at hRefusal
          rw [hBatch] at hRefusal
          cases hRefusal
  | call call =>
      dsimp only [meet, Demand.call?] at hRefusal
      cases call with
      | start fileName language startUrl =>
          exact exists_refuses_start hRefusal
      | stop =>
          cases hActive : studio.outlet.active? with
          | none => exact ⟨_, .stopped hActive⟩
          | some active =>
              dsimp only [judge] at hRefusal
              rw [stop_of_active hActive] at hRefusal
              cases hRefusal
      | append action =>
          cases hActive : studio.outlet.active? with
          | none => exact ⟨_, .unattended action hActive⟩
          | some active =>
              dsimp only [judge] at hRefusal
              rw [hAgrees.result_append hActive] at hRefusal
              cases hRefusal
      | submit events => cases hRefusal
      | advance duration => cases hRefusal
      | lapse duration => cases hRefusal

theorem Agrees.isRefusal_iff
    (hAgrees : studio.Agrees before) :
    (studio.meet demand).verdict.isRefusal = true ↔
      ∃ verdict, studio.Refuses demand verdict := by
  constructor
  · exact hAgrees.exists_refuses
  · rintro ⟨verdict, hRefuses⟩
    rw [meet_of_refuses hRefuses]
    exact hRefuses.isRefusal

/-
  Whatever was demanded before, a further demand is turned
  down just if it is one of those that are to be. Then session,
  recorder and time stay as they are and nothing is heard, and
  the verdicts on all that comes later are as if the demand
  had not been made.
-/
theorem verdicts_of_refuses
    (settings : Capture.Settings)
    (now : Nat)
    (earlier : List Demand)
    (demand : Demand) :
    ((((new settings now).afterAll earlier).meet
          demand).verdict.isRefusal = true ↔
      ∃ verdict,
        ((new settings now).afterAll earlier).Refuses demand
          verdict) ∧
    ∀ verdict,
      ((new settings now).afterAll earlier).Refuses demand
          verdict →
        (((new settings now).afterAll earlier).meet demand =
            { studio := (new settings now).afterAll earlier
              verdict := verdict
              heard := [] }) ∧
          ∀ later,
            (new settings now).afterAll
                  (earlier ++ demand :: later) =
                (new settings now).afterAll
                  (earlier ++ later) ∧
              ((new settings now).verdicts
                  (earlier ++ demand :: later))[
                    earlier.length]? =
                some (verdict, []) ∧
              ((new settings now).verdicts
                  (earlier ++ demand :: later)).eraseIdx
                    earlier.length =
                (new settings now).verdicts
                  (earlier ++ later) := by
  have hAgrees :=
    (agrees_new settings now).after
      (earlier.filterMap Demand.call?)
  rw [← afterAll_eq_after] at hAgrees
  refine ⟨hAgrees.isRefusal_iff, ?_⟩
  intro verdict hRefuses
  have hMeet := meet_of_refuses hRefuses
  refine ⟨hMeet, ?_⟩
  intro later
  have hVerdicts :
      (new settings now).verdicts
          (earlier ++ demand :: later) =
        (new settings now).verdicts earlier ++
          (verdict, []) ::
            ((new settings now).afterAll
              earlier).verdicts later := by
    rw [verdicts_append, verdicts, hMeet]
  refine ⟨?_, ?_, ?_⟩
  · rw [afterAll_append, afterAll_append, afterAll, hMeet]
  · rw [hVerdicts]
    simp
  · rw [hVerdicts, verdicts_append,
      List.eraseIdx_append_of_length_le (by simp)]
    simp

/-
  A recording that was stopped while a scroll waits. A batch
  of which only the first event can be read is turned down,
  and neither what still waits nor the next recording is
  touched.
-/
def halted : List Demand :=
  [.call (.start "login" .python (some "/a")),
    .call (.submit [⟨.scroll none 0 500, 10⟩]),
    .call .stop]

def garbled : Json :=
  .array
    [.array [.string "unload", .string "/b", Json.ofNat 20],
      .null]

theorem verdicts_of_refuses_garbled :
    ((new {} 5).afterAll halted).recorder.timers.size = 1 ∧
      ((new {} 5).afterAll halted).Refuses
        (.batch garbled) .unreadable ∧
      ((new {} 5).verdicts
          (halted ++
            [.batch garbled, .call (.advance 500),
              .call (.start "next" .java none)])).eraseIdx 3 =
        (new {} 5).verdicts
          (halted ++
            [.call (.advance 500),
              .call (.start "next" .java none)]) := by
  have hPart :
      ∃ part ∈ Event.parts garbled,
        Event.ofPart? part = none := by
    refine ⟨.null, ?_, rfl⟩
    exact List.mem_cons_of_mem _ List.mem_cons_self
  have hRefuses :
      ((new {} 5).afterAll halted).Refuses
        (.batch garbled) .unreadable :=
    .illegible _ hPart
  refine ⟨by decide, hRefuses, ?_⟩
  have hSame :=
    (verdicts_of_refuses {} 5 halted (.batch garbled)).2 _
      hRefuses
  exact (hSame.2 _).2.2

end Studio

end Clickstream
