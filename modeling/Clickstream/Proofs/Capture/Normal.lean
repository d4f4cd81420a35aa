import Clickstream.Proofs.Capture.Run
import Clickstream.Proofs.Element.Normal

/-
  Events in normal form. A recorder brings the element of an
  event into normal form itself, so it makes no difference
  whether the element came in that form.

  Key definitions:
    * `Command.normalise`

  Key theorems:
    * `Recorder.handle_normalise`
    * `Recorder.after_normalise`, `Recorder.history_normalise`
    * `Recorder.normalise_stable`
-/

namespace Clickstream

namespace Capture

/- The same command with its event in normal form. -/
def Command.normalise : Command → Command
  | .handle event => .handle event.normalise
  | command => command

namespace Recorder

/-
  What is due is settled by the time of the event, which stays
  as it is, and what is acted upon is in normal form.
-/
theorem handle_normalise (r : Recorder) (event : Event) :
    r.handle event.normalise = r.handle event := by
  have hTime : event.normalise.timestamp = event.timestamp :=
    rfl
  unfold handle
  rw [event.normalise_normalise, hTime]

theorem execute_normalise (r : Recorder) (command : Command) :
    r.execute command.normalise = r.execute command := by
  cases command with
  | handle event =>
      dsimp only [Command.normalise, execute]
      rw [r.handle_normalise event]
  | _ => rfl

theorem after_normalise
    (r : Recorder)
    (commands : List Command) :
    r.after (commands.map Command.normalise) =
      r.after commands := by
  induction commands generalizing r with
  | nil => rfl
  | cons command commands ih =>
      rw [List.map_cons, after, after,
        r.execute_normalise command]
      exact ih _

theorem history_normalise
    (r : Recorder)
    (commands : List Command) :
    r.history (commands.map Command.normalise) =
      r.history commands := by
  induction commands generalizing r with
  | nil => rfl
  | cons command commands ih =>
      rw [List.map_cons, history, history, recorded, recorded,
        r.execute_normalise command, ih]

/-
  Normalising once is enough, and just the elements in normal
  form are left alone. An event and the same event in normal
  form have a recorder in any state do the same and leave it
  in the same state, and so do whole runs.
-/
theorem normalise_stable :
    (∀ e : Element,
      e.normalise.normalise = e.normalise ∧
        (e.normalise = e ↔ e.IsNormal)) ∧
    (∀ (r : Recorder) (event : Event),
      (r.handle event.normalise).2 = (r.handle event).2 ∧
        (r.handle event.normalise).1 = (r.handle event).1) ∧
    ∀ (r : Recorder) (commands : List Command),
      r.history (commands.map Command.normalise) =
          r.history commands ∧
        r.after (commands.map Command.normalise) =
          r.after commands := by
  refine ⟨?_, ?_, ?_⟩
  · intro e
    exact ⟨e.normalise_normalise, Element.normalise_eq_self_iff⟩
  · intro r event
    rw [r.handle_normalise event]
    exact ⟨rfl, rfl⟩
  · intro r commands
    exact ⟨r.history_normalise commands,
      r.after_normalise commands⟩

end Recorder

end Capture

end Clickstream
