import Clickstream.Proofs.Studio.Delivery

/-
  The audience: what listeners hear of a session. They hear
  every action of its log, in order, but with the time that it
  came with; the log may have raised that.

  Key definitions:
    * `Studio.heardSince`: what was heard since the session
      began

  Key theorems:
    * `Studio.Agrees.heardSince_eq`
    * `Studio.heardSince_eq_actions_iff`
    * `Studio.late_time_heard`
-/

namespace Clickstream

namespace Studio

variable {studio : Studio}
variable {before : List Action}

/-
  What listeners heard since the session began, where they had
  heard `before` of that before the calls.
-/
def heardSince
    (studio : Studio)
    (before : List Action) : List Call → List Action
  | [] => before
  | call :: rest =>
      (studio.perform call).1.heardSince
        (studio.kept before call ++ (studio.perform call).2)
        rest

/- Listeners hear all that the recorder records. -/
theorem Agrees.heardSince_eq
    (hAgrees : studio.Agrees before)
    (calls : List Call) :
    studio.heardSince before calls =
      studio.emittedSince before calls := by
  induction calls generalizing studio before with
  | nil => rfl
  | cons call calls ih =>
      have hDelivers := hAgrees.delivers_perform call
      rw [heardSince, emittedSince, hDelivers.heard]
      exact ih hDelivers.agrees

/-
  The log is what was heard, with times raised that did not
  come after the one before. So the two are the same just if
  each action that was heard follows the one before. Where
  none has the last time of the clock, that is to say that the
  times that were heard strictly increase.
-/
theorem heardSince_eq_actions_iff
    (settings : Capture.Settings)
    (now : Nat)
    (calls : List Call)
    (session : Session)
    (hSession :
      ((new settings now).after calls).session? =
        some session) :
    session.actions =
        Session.raise none
          ((new settings now).heardSince [] calls) ∧
      ((new settings now).heardSince [] calls =
          session.actions ↔
        ((new settings now).heardSince [] calls).IsChain
          Action.Follows) ∧
      ((∀ action ∈ (new settings now).heardSince [] calls,
          action.HasLater) →
        ((new settings now).heardSince [] calls =
            session.actions ↔
          Session.InOrder
            ((new settings now).heardSince [] calls))) := by
  have hNew := agrees_new settings now
  have hActions :
      session.actions =
        Session.raise none
          ((new settings now).heardSince [] calls) := by
    rw [hNew.heardSince_eq calls]
    exact (hNew.after calls).actions session hSession
  have hSame :
      (new settings now).heardSince [] calls =
          session.actions ↔
        ((new settings now).heardSince [] calls).IsChain
          Action.Follows := by
    rw [hActions, eq_comm]
    exact Session.raise_eq_self_iff
  refine ⟨hActions, hSame, fun hLater => hSame.trans ?_⟩
  exact
    ⟨fun hChain => Session.inOrder_of_isChain hChain hLater,
      Session.isChain_of_inOrder⟩

/- An action that was made elsewhere, after a start at five. -/
def detour (time : Nat) : List Call :=
  [.start "login" .python (some "/a"),
    .append (.navigate "/b" none time), .stop]

/- The session of that detour. -/
def detourSession (time : Nat) : Session where
  number := 1
  fileName := "login"
  language := .python
  startUrl := some "/a"
  actions := [.navigate "/a" none 5, .navigate "/b" none time]
  isActive := false

theorem heardSince_eq_actions_detour :
    ((new {} 5).after (detour 9)).session? =
        some (detourSession 9) ∧
      (new {} 5).heardSince [] (detour 9) =
        (detourSession 9).actions := by
  have hSession :
      ((new {} 5).after (detour 9)).session? =
        some (detourSession 9) := by
    decide
  have hSame :=
    heardSince_eq_actions_iff {} 5 (detour 9) _ hSession
  exact ⟨hSession, hSame.2.1.mpr (by decide)⟩

/-
  An action that comes with too early a time is heard with
  that time, while the log holds it with a later one.
-/
theorem late_time_heard :
    ((new {} 5).after (detour 0)).session? =
        some (detourSession 6) ∧
      (new {} 5).heardSince [] (detour 0) =
        [.navigate "/a" none 5, .navigate "/b" none 0] ∧
      (new {} 5).heardSince [] (detour 0) ≠
        (detourSession 6).actions := by
  decide

end Studio

end Clickstream
