import Clickstream.Proofs.Studio.Delivery

/-
  Growth: what becomes of a session as time goes on. Its log
  gets longer and stays in order, and once it has stopped
  nothing changes it any more. The store alone sees to that,
  so it holds of whole calls and of calls that overlap.

  Key definitions:
    * `Session.Grows`
    * `Store.IsKept`, `Store.Passes`: what holds of a store,
      and of an access to it
    * `Studio.Turn`, `Studio.turn`, `Studio.afterTurns`
    * `Studio.begins`, `Studio.ended?`

  Key theorems:
    * `Store.passes_deliverAll`
    * `Studio.passes_perform`, `Studio.passes_turn`
    * `Studio.spans_afterTurns`
    * `Studio.log_grows`
-/

namespace Clickstream

------------------------------------------------------------
-- Sessions
------------------------------------------------------------

namespace Session

variable {session next later : Session}
variable {action : Action}

/-
  What becomes of a session: actions come to the end of its
  log, and none once it has stopped.
-/
structure Grows (session later : Session) : Prop where
  number : later.number = session.number
  actions : session.actions <+: later.actions
  stopped : session.isActive = false → later = session

theorem Grows.refl (session : Session) :
    session.Grows session where
  number := rfl
  actions := List.prefix_refl _
  stopped := fun _ => rfl

theorem Grows.trans
    (hFirst : session.Grows next)
    (hSecond : next.Grows later) :
    session.Grows later where
  number := hSecond.number.trans hFirst.number
  actions := hFirst.actions.trans hSecond.actions
  stopped := by
    intro hStopped
    have hSame := hFirst.stopped hStopped
    subst hSame
    exact hSecond.stopped hStopped

theorem grows_of_append?
    (hAppend : session.append? action = some next) :
    session.Grows next := by
  unfold append? at hAppend
  split at hAppend
  · rename_i hActive
    cases hAppend
    refine ⟨rfl, List.prefix_append _ _, ?_⟩
    intro hStopped
    exact absurd hActive (Bool.eq_false_iff.mp hStopped)
  · cases hAppend

/- An active session may stop. -/
theorem grows_stop (hActive : session.isActive = true) :
    session.Grows session.stop where
  number := rfl
  actions := List.prefix_refl _
  stopped := by
    intro hStopped
    exact absurd hActive (Bool.eq_false_iff.mp hStopped)

end Session

------------------------------------------------------------
-- Stores
------------------------------------------------------------

namespace Store

variable {store next last : Store}
variable {session : Session}
variable {opens : Bool}

/-
  Whether sessions are counted and each action of their logs
  follows the one before.
-/
structure IsKept (store : Store) : Prop where
  number :
    ∀ session,
      store.session = some session →
        session.number = store.opened
  isChain :
    ∀ session,
      store.session = some session →
        session.actions.IsChain Action.Follows

/-
  What an access to a store leads to. Either it opens another
  session, or the session that there is grows.
-/
structure Passes
    (store : Store)
    (opens : Bool)
    (next : Store) : Prop where
  opened : next.opened = store.opened + opens.toNat
  session :
    opens = false →
      ∀ session,
        store.session = some session →
          ∃ later,
            next.session = some later ∧ session.Grows later
  isKept : store.IsKept → next.IsKept

theorem passes_refl (store : Store) :
    store.Passes false store where
  opened := rfl
  session := fun _ session hSession =>
    ⟨session, hSession, Session.Grows.refl session⟩
  isKept := id

/- Further accesses belong to the session that was opened. -/
theorem Passes.trans
    (hFirst : store.Passes opens next)
    (hSecond : next.Passes false last) :
    store.Passes opens last where
  opened := hSecond.opened.trans hFirst.opened
  session := by
    intro hOpens session hSession
    rcases hFirst.session hOpens session hSession with
      ⟨middle, hMiddle, hGrows⟩
    rcases hSecond.session rfl middle hMiddle with
      ⟨later, hLater, hMore⟩
    exact ⟨later, hLater, hGrows.trans hMore⟩
  isKept := fun hKept => hSecond.isKept (hFirst.isKept hKept)

/- An access that puts the session in a later state. -/
theorem passes_of_grows
    {later : Session}
    (hSession : store.session = some session)
    (hGrows : session.Grows later)
    (hChain :
      session.actions.IsChain Action.Follows →
        later.actions.IsChain Action.Follows) :
    store.Passes false
      { store with session := some later } where
  opened := rfl
  session := by
    intro _ other hOther
    have hSame := hSession.symm.trans hOther
    cases hSame
    exact ⟨later, rfl, hGrows⟩
  isKept := by
    intro hKept
    refine ⟨?_, ?_⟩
    · intro other hOther
      cases hOther
      exact hGrows.number.trans (hKept.number _ hSession)
    · intro other hOther
      cases hOther
      exact hChain (hKept.isChain _ hSession)

theorem passes_of_openSession
    {fileName : String}
    {language : Language}
    {startUrl : Option String}
    (hOpen :
      store.openSession fileName language startUrl =
        .ok (next, session)) :
    store.Passes true next := by
  unfold openSession at hOpen
  cases hActive : store.active? with
  | some active =>
      rw [hActive] at hOpen
      cases hOpen
  | none =>
      rw [hActive] at hOpen
      cases hOpen
      refine ⟨rfl, nofun, fun _ => ⟨?_, ?_⟩⟩
      · intro other hOther
        cases hOther
        rfl
      · intro other hOther
        cases hOther
        exact List.isChain_nil

theorem passes_stop
    (hActive : store.active? = some session) :
    store.Passes false
      { store with session := some session.stop } := by
  rcases active?_eq_some_iff.mp hActive with
    ⟨hSession, hIsActive⟩
  exact passes_of_grows hSession
    (Session.grows_stop hIsActive) id

theorem passes_of_deliver
    {action : Action}
    (hDeliver : Outlet.deliver store action = .ok next) :
    store.Passes false next := by
  have hAppend : store.append action = .ok next := hDeliver
  unfold append at hAppend
  cases hTaken : store.session.bind (·.append? action) with
  | none =>
      rw [hTaken] at hAppend
      cases hAppend
  | some taken =>
      rw [hTaken] at hAppend
      cases hAppend
      rcases Option.bind_eq_some_iff.mp hTaken with
        ⟨session, hSession, hSame⟩
      exact passes_of_grows hSession
        (Session.grows_of_append? hSame)
        (fun hChain => Session.isChain_of_append? hChain hSame)

theorem passes_deliverAll
    (store : Store)
    (actions : List Action) :
    store.Passes false
      (Outlet.deliverAll store actions).1 := by
  induction actions generalizing store with
  | nil => exact store.passes_refl
  | cons action actions ih =>
      cases hDeliver : Outlet.deliver store action with
      | ok next =>
          rw [Outlet.deliverAll_of_ok hDeliver]
          exact (passes_of_deliver hDeliver).trans (ih next)
      | error fault =>
          rw [Outlet.deliverAll_of_error hDeliver]
          exact ih store

end Store

------------------------------------------------------------
-- Calls
------------------------------------------------------------

namespace Studio

open Capture (Command)

variable {studio : Studio}
variable {run : List Command}
variable {step : Studio × List Action}

/- A run of the recorder only delivers to the store. -/
theorem passes_of_carries
    (hCarries : studio.Carries run step) :
    studio.outlet.Passes false step.1.outlet := by
  have hPasses :=
    studio.outlet.passes_deliverAll
      (studio.recorder.history run)
  rw [hCarries.delivery] at hPasses
  exact hPasses

/- The recorder starts once a session has been opened. -/
theorem passes_andSettle_start
    {store : Store}
    {opens : Bool}
    (studio : Studio)
    (hPasses : studio.outlet.Passes opens store)
    (address : Option String) :
    studio.outlet.Passes opens
      (Station.andSettle
        (Station.start { studio with outlet := store }
          address)).1.outlet := by
  have hCarries :=
    (Station.carries_start { studio with outlet := store }
      address).andSettle
  exact hPasses.trans (passes_of_carries hCarries)

theorem passes_perform
    (studio : Studio)
    (call : Call) :
    studio.outlet.Passes (studio.opens call)
      (studio.perform call).1.outlet := by
  cases call with
  | start fileName language startUrl =>
      dsimp only [perform]
      rcases studio.start_cases fileName language startUrl with
        ⟨fault, hStart⟩ |
          ⟨name, store, session, hOpen, hStart⟩
      · rw [opens_of_refuse hStart, hStart]
        exact studio.outlet.passes_refl
      · rw [opens_of_finish hStart, hStart]
        exact studio.passes_andSettle_start
          (Store.passes_of_openSession hOpen) _
  | stop =>
      dsimp only [perform]
      cases hRecording : studio.isRecording with
      | true =>
          rcases Option.isSome_iff_exists.mp hRecording with
            ⟨session, hActive⟩
          rw [stop_of_active hActive]
          have hCarries :=
            (studio.stopped session).carries_settleDue
          exact (Store.passes_stop hActive).trans
            (passes_of_carries hCarries)
      | false =>
          unfold stop
          rw [hRecording]
          exact studio.outlet.passes_refl
  | submit events =>
      exact passes_of_carries
        (studio.carries_submit events).andSettle
  | append action =>
      dsimp only [perform]
      unfold append
      cases studio.isRecording with
      | true =>
          exact passes_of_carries
            (studio.carries_append action).andSettle
      | false => exact studio.outlet.passes_refl
  | advance duration =>
      have hPasses :=
        passes_of_carries
          (studio.later duration).carries_settleDue
      exact hPasses
  | lapse duration => exact studio.outlet.passes_refl

------------------------------------------------------------
-- Turns
------------------------------------------------------------

/-
  A whole call, or one access to the store by a call that
  overlaps with others. The accesses may come in any order and
  any action may be delivered, so whatever overlapping calls
  and the recorder do is a run of turns.
-/
inductive Turn where
  | call (call : Call)
  | openSession
      (fileName : String)
      (language : Language)
      (startUrl : Option String)
  | closeSession
  | deliver (action : Action)

/- Where a turn leads to. -/
def turn (studio : Studio) : Turn → Studio
  | .call call => (studio.perform call).1
  | .openSession fileName language startUrl =>
      match studio.openSession fileName language startUrl with
      | .ok (opened, _) => opened
      | .error _ => studio
  | .closeSession => studio.closed
  | .deliver action =>
      { studio with
        outlet :=
          (Outlet.deliverAll studio.outlet [action]).1 }

/- The studio after turns. -/
def afterTurns (studio : Studio) : List Turn → Studio
  | [] => studio
  | turn :: rest => (studio.turn turn).afterTurns rest

/- Whether a turn opens a session. -/
def begins (studio : Studio) : Turn → Bool
  | .call call => studio.opens call
  | .openSession fileName language startUrl =>
      (studio.openSession fileName language startUrl).isOk
  | _ => false

/- Whether none of these turns opens a session. -/
def BeginsNone (studio : Studio) : List Turn → Prop
  | [] => True
  | turn :: rest =>
      studio.begins turn = false ∧
        (studio.turn turn).BeginsNone rest

/- The session that a turn stops, as it is after that. -/
def ended? (studio : Studio) : Turn → Option Session
  | .call .stop => studio.stop.result.toOption
  | .closeSession => studio.closeSession.toOption.map (·.2)
  | _ => none

variable {session : Session}
variable {turn : Turn}

theorem afterTurns_append
    (studio : Studio)
    (turns more : List Turn) :
    studio.afterTurns (turns ++ more) =
      (studio.afterTurns turns).afterTurns more := by
  induction turns generalizing studio with
  | nil => rfl
  | cons turn turns ih => exact ih _

theorem passes_turn
    (studio : Studio)
    (turn : Turn) :
    studio.outlet.Passes (studio.begins turn)
      (studio.turn turn).outlet := by
  cases turn with
  | call call => exact studio.passes_perform call
  | openSession fileName language startUrl =>
      dsimp only [Studio.turn, begins]
      cases hOpen :
          studio.outlet.openSession fileName language startUrl
      with
      | ok opened =>
          rw [openSession_of_ok hOpen]
          exact Store.passes_of_openSession hOpen
      | error fault =>
          rw [openSession_of_error hOpen]
          exact studio.outlet.passes_refl
  | closeSession =>
      dsimp only [Studio.turn, begins, closed]
      cases hActive : studio.outlet.active? with
      | some session =>
          rw [closeSession_of_active hActive]
          exact Store.passes_stop hActive
      | none =>
          rw [closeSession_of_not_active hActive]
          exact studio.outlet.passes_refl
  | deliver action =>
      exact studio.outlet.passes_deliverAll [action]

/- What a turn stops is there after it, and has stopped. -/
theorem stopped_of_ended?
    (hEnded : studio.ended? turn = some session) :
    (studio.turn turn).session? = some session ∧
      session.isActive = false := by
  cases hActive : studio.outlet.active? with
  | none =>
      -- Nothing stops where no session is active.
      have hRecording := isRecording_of_not_active hActive
      cases turn with
      | call call =>
          cases call with
          | stop =>
              dsimp only [ended?] at hEnded
              unfold stop at hEnded
              rw [hRecording] at hEnded
              cases hEnded
          | _ => cases hEnded
      | closeSession =>
          dsimp only [ended?] at hEnded
          rw [closeSession_of_not_active hActive] at hEnded
          cases hEnded
      | _ => cases hEnded
  | some active =>
      cases turn with
      | call call =>
          cases call with
          | stop =>
              dsimp only [ended?] at hEnded
              dsimp only [Studio.turn, perform]
              rw [stop_of_active hActive] at hEnded ⊢
              cases hEnded
              have hPasses :=
                passes_of_carries
                  (studio.stopped active).carries_settleDue
              rcases hPasses.session rfl active.stop rfl with
                ⟨later, hLater, hGrows⟩
              have hSame := hGrows.stopped rfl
              subst hSame
              exact ⟨hLater, rfl⟩
          | _ => cases hEnded
      | closeSession =>
          dsimp only [ended?] at hEnded
          dsimp only [Studio.turn, closed]
          rw [closeSession_of_active hActive] at hEnded ⊢
          cases hEnded
          exact ⟨rfl, rfl⟩
      | _ => cases hEnded

------------------------------------------------------------
-- Runs
------------------------------------------------------------

/-
  What holds between two points of a run: sessions are counted
  on, and as long as none is opened the one session grows.
-/
structure Spans (studio later : Studio) : Prop where
  opened : studio.outlet.opened ≤ later.outlet.opened
  session :
    later.outlet.opened = studio.outlet.opened →
      ∀ session,
        studio.session? = some session →
          ∃ grown,
            later.session? = some grown ∧ session.Grows grown
  isKept : studio.outlet.IsKept → later.outlet.IsKept

theorem spans_afterTurns
    (studio : Studio)
    (turns : List Turn) :
    studio.Spans (studio.afterTurns turns) := by
  induction turns generalizing studio with
  | nil =>
      refine ⟨Nat.le_refl _, ?_, id⟩
      intro _ session hSession
      exact ⟨session, hSession, Session.Grows.refl session⟩
  | cons turn turns ih =>
      have hPasses := studio.passes_turn turn
      have hSpans := ih (studio.turn turn)
      have hOpened := hPasses.opened
      have hMore := hSpans.opened
      refine ⟨?_, ?_, ?_⟩
      · show studio.outlet.opened ≤
          ((studio.turn turn).afterTurns turns).outlet.opened
        omega
      · intro hSame session hSession
        have hSame :
            ((studio.turn turn).afterTurns
                turns).outlet.opened =
              studio.outlet.opened :=
          hSame
        -- An opened session would have been counted for good.
        have hNone : studio.begins turn = false := by
          cases hBegins : studio.begins turn with
          | false => rfl
          | true =>
              rw [hBegins, Bool.toNat_true] at hOpened
              omega
        rw [hNone, Bool.toNat_false] at hOpened
        rcases hPasses.session hNone session hSession with
          ⟨middle, hMiddle, hGrows⟩
        rcases hSpans.session (by omega) middle hMiddle with
          ⟨grown, hGrown, hRest⟩
        exact ⟨grown, hGrown, hGrows.trans hRest⟩
      · exact fun hKept => hSpans.isKept (hPasses.isKept hKept)

/- No session is counted where none is opened. -/
theorem opened_of_beginsNone
    {turns : List Turn}
    (hNone : studio.BeginsNone turns) :
    (studio.afterTurns turns).outlet.opened =
      studio.outlet.opened := by
  induction turns generalizing studio with
  | nil => rfl
  | cons turn turns ih =>
      have hOpened := (studio.passes_turn turn).opened
      rw [hNone.1, Bool.toNat_false] at hOpened
      exact (ih hNone.2).trans hOpened

theorem isKept_new (settings : Capture.Settings) (now : Nat) :
    (new settings now).outlet.IsKept where
  number := nofun
  isChain := nofun

/-
  After any turns the times in the log strictly increase, if
  none is the last time of the clock. At any later point of
  the same session its log begins with the log so far. What a
  stop leads to is the session at all later points, up to the
  next start that is not refused.
-/
theorem log_grows
    (settings : Capture.Settings)
    (now : Nat)
    (turns : List Turn) :
    (∀ session,
      ((new settings now).afterTurns turns).session? =
          some session →
        (∀ action ∈ session.actions, action.HasLater) →
          Session.InOrder session.actions) ∧
    (∀ more session later,
      ((new settings now).afterTurns turns).session? =
          some session →
        ((new settings now).afterTurns
            (turns ++ more)).session? = some later →
          later.number = session.number →
            session.actions <+: later.actions) ∧
    ∀ turn more session,
      ((new settings now).afterTurns turns).ended? turn =
          some session →
        (((new settings now).afterTurns turns).turn
            turn).BeginsNone more →
          ((new settings now).afterTurns
              (turns ++ turn :: more)).session? =
            some session := by
  have hKept :
      ((new settings now).afterTurns turns).outlet.IsKept :=
    ((new settings now).spans_afterTurns turns).isKept
      (isKept_new settings now)
  refine ⟨?_, ?_, ?_⟩
  · intro session hSession
    exact Session.inOrder_of_isChain
      (hKept.isChain session hSession)
  · intro more session later hSession hLater hNumber
    rw [afterTurns_append] at hLater
    have hSpans :=
      ((new settings now).afterTurns turns).spans_afterTurns
        more
    have hOpened := (hSpans.isKept hKept).number later hLater
    have hBefore := hKept.number session hSession
    rcases hSpans.session (by omega) session hSession with
      ⟨grown, hGrown, hGrows⟩
    have hSame := hGrown.symm.trans hLater
    cases hSame
    exact hGrows.actions
  · intro turn more session hEnded hNone
    rw [afterTurns_append]
    rcases stopped_of_ended? hEnded with ⟨hSession, hStopped⟩
    have hSpans :=
      (((new settings now).afterTurns turns).turn
        turn).spans_afterTurns more
    rcases hSpans.session (opened_of_beginsNone hNone) session
        hSession with ⟨grown, hGrown, hGrows⟩
    have hSame := hGrows.stopped hStopped
    subst hSame
    exact hGrown

/- A start, and an action that comes too early for its place. -/
def evening : List Turn :=
  [.call (.start "login" .python (some "/a")),
    .deliver (.navigate "/b" none 0)]

/- Calls that come too late, and parts of such calls. -/
def night : List Turn :=
  [.call (.append (.navigate "/c" none 20)), .closeSession,
    .deliver (.navigate "/d" none 30), .call (.advance 9)]

/- The session of that evening. -/
def eveningSession : Session where
  number := 1
  fileName := "login"
  language := .python
  startUrl := some "/a"
  actions := [.navigate "/a" none 5, .navigate "/b" none 6]

theorem log_grows_evening :
    ((new {} 5).afterTurns evening).session? =
        some eveningSession ∧
      ((new {} 5).afterTurns evening).ended? (.call .stop) =
        some eveningSession.stop ∧
      (((new {} 5).afterTurns evening).turn
        (.call .stop)).BeginsNone night ∧
      Session.InOrder eveningSession.actions ∧
      eveningSession.actions <+:
        eveningSession.stop.actions ∧
      ((new {} 5).afterTurns
          (evening ++ .call .stop :: night)).session? =
        some eveningSession.stop := by
  have hSession :
      ((new {} 5).afterTurns evening).session? =
        some eveningSession := by
    decide
  have hEnded :
      ((new {} 5).afterTurns evening).ended? (.call .stop) =
        some eveningSession.stop := by
    decide
  have hNone :
      (((new {} 5).afterTurns evening).turn
        (.call .stop)).BeginsNone night :=
    ⟨by decide, by decide, by decide, by decide, trivial⟩
  have hGrows := log_grows {} 5 evening
  have hLater :=
    hGrows.2.2 (.call .stop) night eveningSession.stop hEnded
      hNone
  have hBegins :=
    hGrows.2.1 (.call .stop :: night) eveningSession
      eveningSession.stop hSession hLater rfl
  exact ⟨hSession, hEnded, hNone,
    hGrows.1 eveningSession hSession (by decide), hBegins,
    hLater⟩

end Studio

end Clickstream
