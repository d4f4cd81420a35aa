import Clickstream.Plan.Step
import Clickstream.Proofs.Capture.FileNames
import Clickstream.Proofs.Capture.Redaction

/-
  Captured actions: what the recorder makes of events, a test
  can do. Only the value of an action may be missing, where
  nothing was chosen from a list or no file was named.

  Key definitions:
    * `Action.IsWhole`
    * `Action.LacksChoice`
    * `Action.IsFit`

  Key theorems:
    * `Plan.exists_stepFor_iff`
    * `Capture.isFit_interpret`
    * `Recorder.exists_of_mem_answers`
    * `Recorder.hasStep_answers_iff`
-/

namespace Clickstream

------------------------------------------------------------
-- Whole Actions
------------------------------------------------------------

/- The kinds that are nothing without an element. -/
def Action.Kind.needsElement : Action.Kind → Bool
  | .navigate | .keypress | .scroll | .wait | .other _ => false
  | _ => true

namespace Action

/-
  Whether an action has the part its step is made of, be it
  an element, an address or a key.
-/
def IsWhole (a : Action) : Prop :=
  match a.kind with
  | .navigate => a.url.isSome = true
  | .keypress => ∃ key, a.key = some key ∧ key ≠ ""
  | .scroll | .wait => True
  | .other _ => False
  | _ => a.selector.isSome = true

/- Whether a selection tells no choice. -/
def LacksChoice (a : Action) : Prop :=
  a.kind = .select ∧
    (a.value = none ∨ a.value = some (.list []))

instance (a : Action) : Decidable a.LacksChoice := by
  unfold LacksChoice
  infer_instance

variable {a : Action}

theorem IsWhole.of_selector
    (hKind : a.kind.needsElement = true)
    (hSelector : a.selector.isSome = true) :
    a.IsWhole := by
  unfold IsWhole
  unfold Kind.needsElement at hKind
  split <;> simp_all

end Action

------------------------------------------------------------
-- Steps
------------------------------------------------------------

namespace Plan

variable {settings : Settings}
variable {a : Action}

/-
  A step on an element takes the element, and what it takes
  apart from that.
-/
theorem exists_bind_target_iff
    {stepFor : Target → Except Refusal Step}
    {needs : Prop}
    (hStep : ∀ t, (∃ step, stepFor t = .ok step) ↔ needs) :
    (∃ step, target a >>= stepFor = .ok step) ↔
      a.selector.isSome = true ∧ needs := by
  unfold target Target.of?
  cases a.selector with
  | none =>
      constructor
      · rintro ⟨step, hNone⟩
        cases hNone
      · rintro ⟨hNone, _⟩
        cases hNone
  | some selector =>
      exact (hStep _).trans (by simp)

theorem exists_bind_target_ok_iff
    (stepFor : Target → Step) :
    (∃ step,
        (target a >>= fun t => .ok (stepFor t)) = .ok step) ↔
      a.selector.isSome = true := by
  have hStep :
      ∀ t, (∃ step, Except.ok (stepFor t) =
        (.ok step : Except Refusal Step)) ↔ True :=
    fun t => iff_true_intro ⟨_, rfl⟩
  exact (exists_bind_target_iff hStep).trans
    (and_iff_left trivial)

/- A step that is refused where something is lacking. -/
theorem exists_ok_unless_iff
    {refusal : Refusal}
    {step : Step}
    {lacks : Prop}
    [Decidable lacks] :
    (∃ made,
        (do
          if lacks then throw refusal
          return step : Except Refusal Step) = .ok made) ↔
      ¬ lacks := by
  dsimp only
  split
  · rename_i hLacks
    exact ⟨nofun, fun hSome => absurd hLacks hSome⟩
  · rename_i hSome
    exact ⟨fun _ => hSome, fun _ => ⟨step, rfl⟩⟩

theorem exists_selectStep_iff :
    (∃ step, selectStep a = .ok step) ↔
      a.selector.isSome = true ∧ choices a ≠ [] :=
  exists_bind_target_iff fun _ => exists_ok_unless_iff

theorem exists_uploadStep_iff :
    (∃ step, uploadStep a = .ok step) ↔
      a.selector.isSome = true ∧ uploadedFiles a ≠ [] :=
  exists_bind_target_iff fun _ => exists_ok_unless_iff

theorem exists_navigateStep_iff :
    (∃ step, navigateStep a = .ok step) ↔
      a.url.isSome = true := by
  unfold navigateStep
  cases a.url with
  | none => simp
  | some url => simp

theorem exists_keyStep_iff :
    (∃ step, keyStep a = .ok step) ↔
      ∃ key, a.key = some key ∧ key ≠ "" := by
  unfold keyStep
  split
  · rename_i hNone
    refine ⟨nofun, ?_⟩
    rintro ⟨key, hKey, hSome⟩
    rw [hKey] at hNone
    exact absurd (Option.filter_eq_none_iff.mp hNone key rfl)
      (by simpa using hSome)
  · rename_i key hKey
    have hKey := Option.filter_eq_some_iff.mp hKey
    exact ⟨fun _ => ⟨key, hKey.1, of_decide_eq_true hKey.2⟩,
      fun _ => ⟨_, rfl⟩⟩

theorem exists_checkStep_iff :
    (∃ step, checkStep a = .ok step) ↔
      a.selector.isSome = true := by
  unfold checkStep
  split
  · exact exists_bind_target_ok_iff _
  · exact exists_bind_target_ok_iff _

/-
  The actions that have a step: whole ones, unless a selection
  tells no choice or an upload no file.
-/
theorem exists_stepFor_iff :
    (∃ step, settings.stepFor a = .ok step) ↔
      a.IsWhole ∧ (a.kind = .select → choices a ≠ []) ∧
        (a.kind = .upload → uploadedFiles a ≠ []) := by
  unfold Settings.stepFor Action.IsWhole
  cases hKind : a.kind with
  | select => simpa using exists_selectStep_iff
  | upload => simpa using exists_uploadStep_iff
  | navigate => simpa using exists_navigateStep_iff
  | keypress => simpa using exists_keyStep_iff
  | check => simpa using exists_checkStep_iff
  | other name => simp
  | scroll => simp
  | wait => simp
  | _ =>
      -- What is left is one step on the element.
      refine (exists_bind_target_ok_iff _).trans ?_
      simp

theorem choices_eq_nil_iff :
    choices a = [] ↔
      a.value = none ∨ a.value = some (.list []) := by
  unfold choices Action.Value.toList
  cases a.value with
  | none => simp
  | some value =>
      cases value with
      | text t => simp
      | list items => simp
      | flag on => cases on <;> simp

theorem uploadedFiles_eq_nil_iff :
    uploadedFiles a = [] ↔
      ∀ name ∈ Text.splitList (a.valueText?.getD ""),
        Text.isBlankText name = true := by
  unfold uploadedFiles Text.nonBlank
  rw [List.filterMap_eq_nil_iff]
  simp

/- Where no folders are told, the names are those told. -/
theorem lacksFile_iff_of_hasBareNames
    (hBare : a.HasBareNames) :
    a.LacksFile ↔
      a.kind = .upload ∧ uploadedFiles a = [] := by
  unfold Action.LacksFile
  rw [uploadedFiles_eq_nil_iff]
  refine and_congr_right fun hKind => ?_
  refine forall₂_congr fun name hName => ?_
  have hAvoids := (hBare hKind).splitList hName
  rw [Capture.fileName_of_avoids hAvoids]

theorem hasStep_iff
    (hWhole : a.IsWhole)
    (hBare : a.HasBareNames) :
    (∃ step, settings.stepFor a = .ok step) ↔
      ¬ (a.LacksChoice ∨ a.LacksFile) := by
  rw [exists_stepFor_iff, lacksFile_iff_of_hasBareNames hBare,
    Action.LacksChoice, ← choices_eq_nil_iff, not_or, not_and,
    not_and]
  exact and_iff_right hWhole

end Plan

------------------------------------------------------------
-- Events
------------------------------------------------------------

/- An input for files is none for passwords. -/
theorem Element.isPassword_of_isFileInput
    {e : Element}
    (hFile : e.isFileInput = true) :
    e.isPassword = false := by
  apply Bool.eq_false_iff.mpr
  intro hPassword
  rw [isPassword_iff, isFileInput_iff.mp hFile] at hPassword
  exact absurd hPassword (by decide)

/-
  Whether a test can do an action once it is sanitised, given
  a value: it is whole, and no password stands in the place
  of file names.
-/
structure Action.IsFit (a : Action) : Prop where
  whole : a.IsWhole
  names : a.kind = .upload → a.isPassword = false

namespace Action

/- Other actions than uploads name no files. -/
theorem IsFit.of_kind
    {a : Action}
    (hWhole : a.IsWhole)
    (hKind : a.kind ≠ .upload) :
    a.IsFit :=
  ⟨hWhole, fun hUpload => absurd hUpload hKind⟩

theorem isFit_navigate
    (url : String)
    (previous : Option String)
    (timestamp : Nat) :
    (Action.navigate url previous timestamp).IsFit :=
  IsFit.of_kind rfl nofun

end Action

/- What an element gives rise to names the element. -/
theorem Element.isFit_action
    (e : Element)
    {kind : Action.Kind}
    (timestamp : Nat)
    (hKind : kind.needsElement = true)
    (hUpload : kind = .upload → e.isFileInput = true) :
    (e.action kind timestamp).IsFit where
  whole := Action.IsWhole.of_selector hKind rfl
  names := by
    intro hSame
    rw [isPassword_action]
    exact isPassword_of_isFileInput (hUpload hSame)

namespace Capture

/- A click uploads only where files are chosen. -/
theorem isFileInput_of_clickKind
    {e : Element}
    {clicks button : Nat}
    (hKind : clickKind e clicks button = .upload) :
    e.isFileInput = true := by
  unfold clickKind at hKind
  split_ifs at hKind with _ _ _ _ hFile
  exact hFile

theorem needsElement_clickKind
    (e : Element)
    (clicks button : Nat) :
    (clickKind e clicks button).needsElement = true := by
  have hMeant := clickKind_mem e clicks button
  generalize clickKind e clicks button = kind at hMeant
  revert kind
  decide

theorem isFit_interpretClick
    (e : Element)
    (clicks button timestamp : Nat) :
    (interpretClick e clicks button timestamp).Only
      Action.IsFit := by
  have hAction :=
    e.isFit_action timestamp
      (needsElement_clickKind e clicks button)
      isFileInput_of_clickKind
  unfold interpretClick
  exact Verdict.only_ite trivial
    (Verdict.only_ite trivial hAction)

theorem isFit_interpretChange
    (settings : Settings)
    (e : Element)
    (timestamp : Nat) :
    (settings.interpretChange e timestamp).Only
      Action.IsFit := by
  unfold Settings.interpretChange
  split_ifs with _ _ _ hFile
  · trivial
  · exact e.isFit_action timestamp rfl nofun
  · exact e.isFit_action timestamp rfl nofun
  · exact e.isFit_action timestamp rfl fun _ => hFile
  · have hTyped : (e.action .type timestamp).IsFit :=
      e.isFit_action timestamp rfl nofun
    exact Action.IsFit.of_kind hTyped.whole nofun
  · trivial

theorem isFit_interpretGesture
    (settings : Settings)
    (gesture : Gesture)
    (e : Element)
    (timestamp : Nat) :
    (settings.interpretGesture gesture e timestamp).Only
      Action.IsFit := by
  have hSelector :
      ∀ {kind}, kind.needsElement = true →
        (e.bareAction kind timestamp).IsWhole :=
    fun hKind => Action.IsWhole.of_selector hKind rfl
  cases gesture with
  | contextMenu => exact isFit_interpretClick e 1 2 timestamp
  | input => exact isFit_interpretChange settings e timestamp
  | change => exact isFit_interpretChange settings e timestamp
  | focus =>
      exact Verdict.only_ite
        (e.isFit_action timestamp rfl nofun) trivial
  | blur =>
      exact Verdict.only_ite
        (e.isFit_action timestamp rfl nofun) trivial
  | mouseOver =>
      exact Verdict.only_ite trivial
        (e.isFit_action timestamp rfl nofun)
  | submit =>
      exact Action.IsFit.of_kind
        (Action.IsWhole.of_selector rfl rfl) nofun
  | dragStart =>
      exact Action.IsFit.of_kind (hSelector rfl) nofun
  | drop =>
      exact Action.IsFit.of_kind (hSelector rfl) nofun

/- The keys worth recording have a name. -/
theorem ne_empty_of_isRecordableKey
    {e : Element}
    {key : String}
    {modifiers : Modifiers}
    (hKey : isRecordableKey e key modifiers = true) :
    key ≠ "" := by
  rintro rfl
  have hShortcut :
      shortcutKeys.contains (Text.lower "") = false := by
    decide
  unfold isRecordableKey at hKey
  rw [hShortcut, Bool.and_false, if_neg Bool.false_ne_true,
    if_neg (by decide)] at hKey
  exact absurd hKey (by decide)

theorem isFit_interpretKey
    (e : Element)
    (key : String)
    (modifiers : Modifiers)
    (timestamp : Nat) :
    (interpretKey e key modifiers timestamp).Only
      Action.IsFit := by
  unfold interpretKey
  dsimp only
  split
  · rename_i hKey
    exact Action.IsFit.of_kind
      ⟨key, rfl, ne_empty_of_isRecordableKey hKey⟩ nofun
  · trivial

/- Whatever an event means, a test can do it. -/
theorem isFit_interpret
    (settings : Settings)
    (location : Option String)
    (event : Event) :
    (settings.interpret location event).Only Action.IsFit := by
  unfold Settings.interpret
  cases event.occurrence with
  | gesture gesture e =>
      exact isFit_interpretGesture settings gesture e _
  | click e clicks button =>
      exact isFit_interpretClick e clicks button _
  | keyDown e key modifiers =>
      exact isFit_interpretKey e key modifiers _
  | scroll target x y =>
      have hKind := kind_scrollDraft target event.timestamp
      refine Action.IsFit.of_kind ?_ ?_
      · unfold Action.IsWhole
        dsimp only
        rw [hKind]
        trivial
      · dsimp only
        rw [hKind]
        nofun
  | mutation address =>
      exact Verdict.only_ite trivial
        (Action.isFit_navigate _ _ _)
  | unload address => exact Action.isFit_navigate _ _ _

------------------------------------------------------------
-- Runs
------------------------------------------------------------

/- Sanitising takes no part of an action away. -/
theorem Settings.isWhole_sanitise
    (settings : Settings)
    {a : Action}
    (hWhole : a.IsWhole) :
    (settings.sanitise a).IsWhole :=
  hWhole

namespace Recorder

/-
  What holds of the actions that a start and all events mean
  holds of every action of a run before it was sanitised,
  unless some were made elsewhere.
-/
theorem exists_of_mem_answers
    {settings : Settings}
    {commands : List Command}
    {P : Action → Prop}
    {answer : Answer}
    {seen : Action}
    (hOwn : ∀ action, .append action ∉ commands)
    (hStart : ∀ url now, P (Action.navigate url none now))
    (hEvent :
      ∀ location event,
        (settings.interpret location event).Only P)
    (hAnswer : answer ∈ (new settings).answers commands)
    (hSeen : seen ∈ answer.recorded.getD []) :
    ∃ action, P action ∧ seen = settings.sanitise action := by
  rcases mem_answers_iff.mp hAnswer with
    ⟨before, command, rest, rfl, rfl⟩
  have hSettings :
      ((new settings).after before).settings = settings :=
    settings_after (new settings) before
  have hWaits :
      ((new settings).after before).Waits
        fun _ action => P action := by
    refine (waits_new settings).after fun command _ => ?_
    cases command with
    | handle event =>
        intro location key deadline action hVerdict
        exact (hEvent location event.normalise).of_settle
          hVerdict
    | _ => trivial
  rcases source_of_mem_recorded hSeen with
    ⟨action, hSource, hSame⟩
  rw [hSettings] at hSame
  refine ⟨action, ?_, hSame⟩
  cases hSource with
  | started url now => exact hStart url now
  | waited _ hp => exact hWaits _ hp
  | happened hVerdict =>
      rw [hSettings] at hVerdict
      exact (hEvent _ _).of_record hVerdict
  | appended _ _ =>
      exact absurd (List.mem_append_right _ List.mem_cons_self)
        (hOwn action)

/-
  Of what a run records of events, a test can do everything
  but a selection that tells no choice and an upload that
  tells the name of no file.
-/
theorem hasStep_answers_iff
    (settings : Settings)
    (plan : Plan.Settings)
    (commands : List Command)
    (hOwn : ∀ action, .append action ∉ commands) :
    ∀ answer ∈ (new settings).answers commands,
      ∀ seen ∈ answer.recorded.getD [],
        (∃ step, plan.stepFor seen = .ok step) ↔
          ¬ (seen.LacksChoice ∨ seen.LacksFile) := by
  intro answer hAnswer seen hSeen
  rcases exists_of_mem_answers hOwn
      (fun url now => Action.isFit_navigate url none now)
      (isFit_interpret settings) hAnswer hSeen with
    ⟨action, hFit, rfl⟩
  exact Plan.hasStep_iff
    (settings.isWhole_sanitise hFit.whole)
    (settings.hasBareNames_sanitise hFit.names)

/- Files are chosen in an input for them. -/
def pick (paths : List String) (time : Nat) : Command :=
  .handle
    ⟨.gesture .change
      { tagName := "input"
        attributes :=
          Attributes.ofList
            [("type", "file"), ("name", "photo")]
        form := { fileNames := paths } },
      time⟩

/- What is recorded of that. -/
def picked (names : String) (time : Nat) : Action where
  kind := .upload
  selector := some (Selector.name "photo")
  value := some (.text names)
  timestamp := time
  inputType := some "file"
  tagName := some "input"

/- The answer to a command that records one action. -/
def shown (seen : Action) : Answer where
  recorded := some [seen]
  phase := .recording
  waiting := 0
  deadline := none

/- A file and a folder are chosen, and then the folder. -/
def picks : List Command :=
  [.start (some "/a") 0, pick ["/tmp/", "/tmp/b.txt"] 10,
    pick ["/tmp/"] 5000]

theorem hasStep_answers_iff_picks :
    (∀ action, .append action ∉ picks) ∧
      (new {}).answers picks =
          [shown (Action.navigate "/a" none 0),
            shown (picked ", b.txt" 10),
            shown (picked "" 5000)] ∧
        (∃ step,
            ({} : Plan.Settings).stepFor (picked ", b.txt" 10) =
              .ok step) ∧
          ¬ ∃ step,
              ({} : Plan.Settings).stepFor (picked "" 5000) =
                .ok step := by
  have hOwn : ∀ action, .append action ∉ picks := by
    intro action hAppend
    simp [picks, pick] at hAppend
  have hAnswers :
      (new {}).answers picks =
        [shown (Action.navigate "/a" none 0),
          shown (picked ", b.txt" 10),
          shown (picked "" 5000)] := by
    decide
  have hAll := hasStep_answers_iff {} {} picks hOwn
  rw [hAnswers] at hAll
  have hFile :=
    hAll (shown (picked ", b.txt" 10)) (by simp) _
      List.mem_cons_self
  have hFolder :=
    hAll (shown (picked "" 5000)) (by simp) _
      List.mem_cons_self
  exact ⟨hOwn, hAnswers, hFile.mpr (by decide),
    fun hStep => hFolder.mp hStep (by decide)⟩

end Recorder

end Capture

end Clickstream
