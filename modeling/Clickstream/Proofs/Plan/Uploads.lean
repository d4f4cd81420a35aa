import Clickstream.Proofs.Capture.Readings
import Clickstream.Proofs.Plan.Captured

/-
  Uploads: the files a test hands over. On the way from the
  page to the test their names stand in one text, with a comma
  and a space between them. A name that has such a separator
  within comes out in pieces; all other names come out whole.

  Key definitions:
    * `Text.items`: what a list tells, without blanks
    * `Capture.IsFileName`
    * `Recorder.ChoosesFiles`
    * `Recorder.upload`: what is recorded of chosen files

  Key theorems:
    * `Text.items_joinList`
    * `Capture.flatMap_items_eq_self_iff`
    * `Plan.stepFor_of_upload`
    * `Recorder.exists_setInputFiles_of_choosesFiles`
-/

namespace Clickstream

namespace Text

------------------------------------------------------------
-- Trimming
------------------------------------------------------------

variable {s name : String}

/- What trimming leaves is a part of the text. -/
theorem trim_isInfix (s : String) :
    (trim s).toList <:+: s.toList := by
  have hBack :
      trimBack (trimFront s.toList) <+: trimFront s.toList := by
    rw [← List.reverse_suffix]
    unfold trimBack
    rw [List.reverse_reverse]
    exact List.dropWhile_suffix _
  unfold trim
  rw [String.toList_ofList]
  exact hBack.isInfix.trans (List.dropWhile_suffix _).isInfix

theorem isBlankText_of_trim
    (hTrim : trim name = name)
    (hSome : name ≠ "") :
    isBlankText name = false := by
  apply Bool.eq_false_iff.mpr
  intro hBlank
  have hFront : trimFront name.toList = [] :=
    List.dropWhile_eq_nil_iff.mpr (List.all_eq_true.mp hBlank)
  unfold trim trimChars at hTrim
  rw [hFront] at hTrim
  exact hSome hTrim.symm

/- A trimmed text ends in a character that is not blank. -/
theorem exists_getLast?_of_trim
    (hTrim : trim name = name)
    (hSome : name ≠ "") :
    ∃ c, name.toList.getLast? = some c ∧ isBlank c = false := by
  have hList : trimChars name.toList = name.toList := by
    rw [← String.toList_ofList (l := trimChars name.toList)]
    exact congrArg String.toList hTrim
  cases hLast : name.toList.getLast? with
  | none =>
      rw [List.getLast?_eq_none_iff, String.toList_eq_nil_iff]
        at hLast
      exact absurd hLast hSome
  | some c =>
      refine ⟨c, rfl, ?_⟩
      have hHead :=
        List.head?_dropWhile_not isBlank
          (trimFront name.toList).reverse
      rw [← hList] at hLast
      unfold trimChars trimBack at hLast
      rw [List.getLast?_reverse] at hLast
      rw [hLast] at hHead
      exact hHead

------------------------------------------------------------
-- Items
------------------------------------------------------------

variable {names : List String}

/- What a list tells: its parts without blanks around them. -/
def items (s : String) : List String :=
  (splitList s).filterMap nonBlank

/- The items of a list are those of the texts it is made of. -/
theorem items_joinList (names : List String) :
    items (joinList names) = names.flatMap items := by
  cases names with
  | nil => decide
  | cons name names =>
      have hSplit :=
        splitList_joinList_eq_flatMap
          (List.cons_ne_nil name names)
      unfold items
      rw [hSplit, List.filterMap_flatMap]

/- No item has a separator within. -/
theorem not_infix_of_mem_items
    (hName : name ∈ items s) :
    ¬ [',', ' '] <:+: name.toList := by
  rcases List.mem_filterMap.mp hName with ⟨part, hPart, hTold⟩
  unfold nonBlank at hTold
  split at hTold
  · cases hTold
  · cases hTold
    intro hPair
    exact not_infix_of_mem_splitList hPart
      (hPair.trans (trim_isInfix part))

theorem items_eq_singleton
    (hTrim : trim name = name)
    (hSome : name ≠ "")
    (hWhole : ¬ [',', ' '] <:+: name.toList) :
    items name = [name] := by
  have hTold : nonBlank name = some name := by
    unfold nonBlank
    rw [isBlankText_of_trim hTrim hSome, hTrim]
    rfl
  unfold items
  rw [splitList_eq_singleton hWhole,
    List.filterMap_cons_some hTold]
  rfl

/- The end of a text is the end of one of its parts. -/
theorem exists_mem_of_getLast?_intercalate
    {a b c : Char}
    {parts : List (List Char)}
    (hc : c ≠ b)
    (hLast :
      (List.intercalate [a, b] parts).getLast? = some c) :
    ∃ part ∈ parts, c ∈ part := by
  induction parts with
  | nil => cases hLast
  | cons part parts ih =>
      cases parts with
      | nil =>
          rw [List.intercalate_singleton] at hLast
          exact ⟨part, List.mem_cons_self,
            List.mem_of_getLast? hLast⟩
      | cons next parts =>
          rw [List.intercalate_cons_cons, List.getLast?_append]
            at hLast
          cases hRest :
              (List.intercalate [a, b]
                (next :: parts)).getLast? with
          | none =>
              -- The separator would be the end.
              rw [hRest, List.getLast?_append] at hLast
              exact absurd (Option.some.inj hLast).symm hc
          | some d =>
              rw [hRest] at hLast
              cases hLast
              rcases ih hRest with ⟨other, hOther, hMem⟩
              exact ⟨other, List.mem_cons_of_mem _ hOther,
                hMem⟩

/-
  A trimmed text tells something, even where it is full of
  separators: none of them stands at its end.
-/
theorem items_ne_nil
    (hTrim : trim name = name)
    (hSome : name ≠ "") :
    items name ≠ [] := by
  rcases exists_getLast?_of_trim hTrim hSome with
    ⟨c, hLast, hBlank⟩
  have hSpace : c ≠ ' ' := by
    rintro rfl
    exact absurd hBlank (by decide)
  rw [← intercalate_splitPair ',' ' ' name.toList] at hLast
  rcases exists_mem_of_getLast?_intercalate hSpace hLast with
    ⟨part, hPart, hc⟩
  intro hNone
  have hPart : String.ofList part ∈ splitList name :=
    List.mem_map_of_mem hPart
  have hNothing := List.filterMap_eq_nil_iff.mp hNone _ hPart
  unfold nonBlank isBlankText at hNothing
  split at hNothing
  · rename_i hAll
    rw [String.toList_ofList, List.all_eq_true] at hAll
    rw [hAll c hc] at hBlank
    cases hBlank
  · cases hNothing

end Text

------------------------------------------------------------
-- File Names
------------------------------------------------------------

namespace Capture

/- The name of a file as a page tells it. -/
structure IsFileName (name : String) : Prop where
  ne_empty : name ≠ ""
  bare : Text.Avoids isFolderSign name
  trimmed : Text.trim name = name

instance (name : String) : Decidable (IsFileName name) :=
  decidable_of_iff
    (name ≠ "" ∧ Text.Avoids isFolderSign name ∧
      Text.trim name = name)
    ⟨fun ⟨hSome, hBare, hTrim⟩ => ⟨hSome, hBare, hTrim⟩,
      fun hName => ⟨hName.1, hName.2, hName.3⟩⟩

variable {names : List String}

theorem avoids_joinList
    (hNames : ∀ name ∈ names, IsFileName name) :
    Text.Avoids isFolderSign (Text.joinList names) :=
  Text.Avoids.intercalate (by decide) fun name hName =>
    (hNames name hName).bare

/- Chosen files are not lost. -/
theorem flatMap_items_ne_nil
    (hSome : names ≠ [])
    (hNames : ∀ name ∈ names, IsFileName name) :
    names.flatMap Text.items ≠ [] := by
  intro hNone
  rcases List.exists_mem_of_ne_nil names hSome with
    ⟨name, hName⟩
  have hFile := hNames name hName
  exact Text.items_ne_nil hFile.trimmed hFile.ne_empty
    (List.flatMap_eq_nil_iff.mp hNone name hName)

/-
  The names that come out are the ones that went in just if
  none of them has a separator within.
-/
theorem flatMap_items_eq_self_iff
    (hNames : ∀ name ∈ names, IsFileName name) :
    names.flatMap Text.items = names ↔
      ∀ name ∈ names, ¬ [',', ' '] <:+: name.toList := by
  constructor
  · intro hSame name hName
    rw [← hSame] at hName
    rcases List.mem_flatMap.mp hName with ⟨_, _, hItem⟩
    exact Text.not_infix_of_mem_items hItem
  · intro hWhole
    calc names.flatMap Text.items
        = names.flatMap fun name => [name] := by
          apply List.flatMap_congr
          intro name hName
          have hFile := hNames name hName
          exact Text.items_eq_singleton hFile.trimmed
            hFile.ne_empty (hWhole name hName)
      _ = names := List.flatMap_singleton' names

end Capture

------------------------------------------------------------
-- Elements
------------------------------------------------------------

namespace Element

variable {e : Element}

/- An input for files holds their names in one text. -/
theorem currentValue?_of_isFileInput
    (hFile : e.isFileInput = true)
    (hSome : e.form.fileNames ≠ []) :
    e.currentValue? =
      some (.text (Text.joinList e.form.fileNames)) := by
  have hType := isFileInput_iff.mp hFile
  unfold currentValue? fileText?
  rw [isSelect_of_inputType? hType, hType,
    if_neg Bool.false_ne_true]
  apply if_neg
  simpa using hSome

theorem valueText?_action
    (e : Element)
    (kind : Action.Kind)
    (time : Nat) :
    (e.action kind time).valueText? =
      e.currentValue?.bind Action.Value.text? :=
  rfl

end Element

/- A change of such an input is an upload. -/
theorem Capture.Settings.interpretChange_of_isFileInput
    (settings : Capture.Settings)
    {e : Element}
    (hFile : e.isFileInput = true)
    (hOutside : e.inRecorderOverlay = false)
    (time : Nat) :
    settings.interpretChange e time =
      .record (e.action .upload time) := by
  have hType := Element.isFileInput_iff.mp hFile
  have hBox : e.isCheckable = false := by
    unfold Element.isCheckable Element.hasInputType
    rw [hType]
    rfl
  unfold interpretChange
  rw [hOutside, Element.isSelect_of_inputType? hType, hBox,
    hFile]
  rfl

theorem Capture.Settings.interpret_change
    (settings : Capture.Settings)
    (location : Option String)
    (e : Element)
    (time : Nat) :
    settings.interpret location
        (Event.normalise ⟨.gesture .change e, time⟩) =
      settings.interpretChange e.normalise time :=
  rfl

------------------------------------------------------------
-- Steps
------------------------------------------------------------

namespace Plan

/- An upload with a file hands over what its value tells. -/
theorem stepFor_of_upload
    (settings : Settings)
    {a : Action}
    {t : Target}
    (hKind : a.kind = .upload)
    (hTarget : Target.of? a = some t)
    (hFiles : uploadedFiles a ≠ []) :
    settings.stepFor a =
      .ok ⟨titleOn "Upload" t,
        [.setInputFiles t (uploadedFiles a)]⟩ := by
  unfold Settings.stepFor
  rw [hKind]
  dsimp only
  unfold uploadStep target
  rw [hTarget]
  dsimp only [bind, Except.bind]
  rw [if_neg hFiles]
  rfl

end Plan

------------------------------------------------------------
-- Recording
------------------------------------------------------------

namespace Capture

namespace Recorder

variable {r : Recorder}

/-
  Whether files are chosen in an element such that they are
  recorded and their names are not cut: an input for files
  that is no part of the recorder, names of files that are not
  too long, and an action that is no duplicate of the last one
  once everything that waited has settled.
-/
structure ChoosesFiles
    (r : Recorder)
    (e : Element)
    (time : Nat) : Prop where
  phase : r.phase = .recording
  isFileInput : e.normalise.isFileInput = true
  outside : e.inRecorderOverlay = false
  ne_nil : e.form.fileNames ≠ []
  names : ∀ name ∈ e.form.fileNames, IsFileName name
  short :
    (Text.joinList e.form.fileNames).toList.length ≤
      r.settings.valueLimit
  isNew :
    (r.poll time).1.flush.1.isDuplicate
      (e.normalise.action .upload time) = false

/- What is recorded when files are chosen in an element. -/
def upload
    (r : Recorder)
    (e : Element)
    (time : Nat) : Action :=
  r.settings.sanitise (e.normalise.action .upload time)

variable {e : Element}
variable {time : Nat}

/- What is recorded tells what each of the names tells. -/
theorem ChoosesFiles.uploadedFiles_upload
    (hFiles : r.ChoosesFiles e time) :
    Plan.uploadedFiles (r.upload e time) =
      e.form.fileNames.flatMap Text.items := by
  have hPassword :
      (e.normalise.action .upload time).isPassword = false := by
    rw [Element.isPassword_action]
    exact Element.isPassword_of_isFileInput hFiles.isFileInput
  have hHeld :
      e.normalise.currentValue? =
        some (.text (Text.joinList e.form.fileNames)) := by
    rw [← e.form_normalise]
    apply Element.currentValue?_of_isFileInput
    · exact hFiles.isFileInput
    · rw [e.form_normalise]
      exact hFiles.ne_nil
  have hSeen :
      (r.upload e time).valueText? =
        some (Text.joinList e.form.fileNames) := by
    unfold upload
    rw [Settings.valueText?_sanitise_upload rfl hPassword,
      Element.valueText?_action, hHeld]
    dsimp only [Option.bind_some, Action.Value.text?,
      Option.map_some]
    rw [fileNames_of_avoids (avoids_joinList hFiles.names),
      Text.limit_of_length_le hFiles.short]
  unfold Plan.uploadedFiles
  rw [hSeen]
  exact Text.items_joinList e.form.fileNames

/- The upload is recorded behind all that settles by then. -/
theorem ChoosesFiles.exists_handle_eq
    (hFiles : r.ChoosesFiles e time) :
    ∃ earlier,
      (r.handle ⟨.gesture .change e, time⟩).2 =
        earlier ++ [r.upload e time] := by
  refine exists_handle_of_record hFiles.phase ?_
    ⟨rfl, hFiles.isNew⟩
  intro location
  rw [Settings.interpret_change]
  apply Settings.interpretChange_of_isFileInput
  · exact hFiles.isFileInput
  · rw [e.inRecorderOverlay_normalise]
    exact hFiles.outside

/-
  Where files are chosen, the step of what is recorded hands
  them over. Each name comes out as its items, so the list of
  files is the one that was chosen just if no name has a comma
  and a space within.
-/
theorem exists_setInputFiles_of_choosesFiles
    (r : Recorder)
    (plan : Plan.Settings)
    (e : Element)
    (time : Nat)
    (hFiles : r.ChoosesFiles e time) :
    ∃ earlier title t files,
      (r.handle ⟨.gesture .change e, time⟩).2 =
          earlier ++ [r.upload e time] ∧
        Target.of? (r.upload e time) = some t ∧
        plan.stepFor (r.upload e time) =
          .ok ⟨title, [.setInputFiles t files]⟩ ∧
        files = e.form.fileNames.flatMap Text.items ∧
        (files = e.form.fileNames ↔
          ∀ name ∈ e.form.fileNames,
            ¬ [',', ' '] <:+: name.toList) := by
  rcases hFiles.exists_handle_eq with ⟨earlier, hRecorded⟩
  have hTold := hFiles.uploadedFiles_upload
  have hSome : Plan.uploadedFiles (r.upload e time) ≠ [] := by
    rw [hTold]
    exact flatMap_items_ne_nil hFiles.ne_nil hFiles.names
  have hTarget :
      Target.of? (r.upload e time) =
        some ⟨e.normalise.frames, _⟩ :=
    rfl
  have hStep := Plan.stepFor_of_upload plan rfl hTarget hSome
  rw [hTold] at hStep
  exact ⟨earlier, _, _, _, hRecorded, hTarget, hStep, rfl,
    flatMap_items_eq_self_iff hFiles.names⟩

/- An input for photos in which files are chosen. -/
def photos (names : List String) : Element where
  tagName := "input"
  attributes :=
    Attributes.ofList [("type", "file"), ("name", "photo")]
  form := { fileNames := names }

/- A recorder that has just started. -/
def started : Recorder :=
  (new {}).after [.start (some "/a") 0]

theorem exists_setInputFiles_of_choosesFiles_two :
    started.ChoosesFiles (photos ["a,b.txt", "c d.txt"]) 10 ∧
      ∃ earlier title t,
        (started.handle
            ⟨.gesture .change (photos ["a,b.txt", "c d.txt"]),
              10⟩).2 =
            earlier ++
              [started.upload
                (photos ["a,b.txt", "c d.txt"]) 10] ∧
          ({} : Plan.Settings).stepFor
              (started.upload
                (photos ["a,b.txt", "c d.txt"]) 10) =
            .ok ⟨title,
              [.setInputFiles t ["a,b.txt", "c d.txt"]]⟩ := by
  have hFiles :
      started.ChoosesFiles
        (photos ["a,b.txt", "c d.txt"]) 10 := by
    constructor <;> decide
  rcases exists_setInputFiles_of_choosesFiles started {} _ 10
      hFiles with
    ⟨earlier, title, t, files, hRecorded, _, hStep, _, hSame⟩
  have hParts :
      Text.splitList "a,b.txt, c d.txt" =
        ["a,b.txt", "c d.txt"] := by
    decide
  have hWhole :
      ∀ name ∈ ["a,b.txt", "c d.txt"],
        ¬ [',', ' '] <:+: name.toList := by
    rw [← hParts]
    exact fun _ => Text.not_infix_of_mem_splitList
  rw [hSame.mpr hWhole] at hStep
  exact ⟨hFiles, earlier, title, t, hRecorded, hStep⟩

/- A name that has a separator within comes out in pieces. -/
theorem file_name_in_pieces :
    started.ChoosesFiles (photos ["a, b.txt"]) 10 ∧
      (started.handle
          ⟨.gesture .change (photos ["a, b.txt"]), 10⟩).2 =
          [started.upload (photos ["a, b.txt"]) 10] ∧
        ({} : Plan.Settings).stepFor
            (started.upload (photos ["a, b.txt"]) 10) =
          .ok ⟨"Upload on [name=\"photo\"]",
            [.setInputFiles ⟨[], Selector.name "photo"⟩
              ["a", "b.txt"]]⟩ := by
  refine ⟨?_, ?_, ?_⟩
  · constructor <;> decide
  · decide
  · decide

end Recorder

end Capture

end Clickstream
