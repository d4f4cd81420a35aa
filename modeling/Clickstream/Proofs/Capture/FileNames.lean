import Mathlib.Data.List.Basic
import Mathlib.Data.List.TakeWhile
import Clickstream.Text.Blank
import Clickstream.Capture.Sanitise
import Clickstream.Proofs.Text.Plain

/-
  File names: what sanitising leaves of the paths of an
  upload. The folders go, and names without folders stay as
  they are.

  Key definitions:
    * `Action.LacksFile`
    * `Action.HasBareNames`

  Key theorems:
    * `Text.intercalate_splitPair`
    * `Text.splitPair_append`, `Text.splitPair_intercalate`
    * `Capture.avoids_fileNames`
    * `Settings.hasBareNames_sanitise`
-/

namespace Clickstream

namespace Text

------------------------------------------------------------
-- Cutting
------------------------------------------------------------

variable {a b c : Char}
variable {cs part rest : List Char}
variable {parts : List (List Char)}

theorem splitPair_ne_nil (a b : Char) (cs : List Char) :
    splitPair a b cs ≠ [] := by
  cases cs with
  | nil => simp [splitPair]
  | cons c rest =>
      unfold splitPair
      split
      · simp
      · split
        · simp
        · split <;> simp

theorem splitPair_pair
    (a b : Char)
    (rest : List Char) :
    splitPair a b (a :: b :: rest) =
      [] :: splitPair a b rest := by
  rw [splitPair, if_pos ⟨rfl, rfl⟩]

theorem splitPair_cons
    (hPair : ¬ [a, b] <+: c :: rest)
    (hRest : splitPair a b rest = part :: parts) :
    splitPair a b (c :: rest) = (c :: part) :: parts := by
  cases rest with
  | nil =>
      rw [splitPair, List.cons.injEq] at hRest
      rw [splitPair, ← hRest.1, ← hRest.2]
  | cons d tail =>
      have hNone : ¬ (c = a ∧ d = b) := by
        rintro ⟨rfl, rfl⟩
        exact hPair ⟨tail, rfl⟩
      rw [splitPair, if_neg hNone, hRest]

theorem intercalate_cons_head
    (separator : List Char)
    (c : Char)
    (part : List Char)
    (parts : List (List Char)) :
    List.intercalate separator ((c :: part) :: parts) =
      c :: List.intercalate separator (part :: parts) := by
  cases parts <;> rfl

/- The parts with the separator between them are the text. -/
theorem intercalate_splitPair (a b : Char) (cs : List Char) :
    List.intercalate [a, b] (splitPair a b cs) = cs := by
  induction cs using splitPair.induct a b with
  | case1 => rfl
  | case2 c => rfl
  | case3 c d tail hPair ih =>
      rcases hPair with ⟨rfl, rfl⟩
      rw [splitPair_pair,
        List.intercalate_cons_of_ne_nil
          (splitPair_ne_nil c d tail), ih]
      rfl
  | case4 c d tail hPair hNone ih =>
      exact absurd hNone (splitPair_ne_nil a b (d :: tail))
  | case5 c d tail hPair part parts hRest ih =>
      rw [hRest] at ih
      rw [splitPair, if_neg hPair, hRest,
        intercalate_cons_head, ih]

/- No part has the separator within. -/
theorem not_infix_of_mem_splitPair
    (hPart : part ∈ splitPair a b cs) :
    ¬ [a, b] <:+: part := by
  induction cs using splitPair.induct a b
      generalizing part with
  | case1 =>
      rw [List.mem_singleton.mp hPart]
      exact fun hPair => by simpa using hPair.length_le
  | case2 c =>
      rw [List.mem_singleton.mp hPart]
      exact fun hPair => by simpa using hPair.length_le
  | case3 c d tail hPair ih =>
      rcases hPair with ⟨rfl, rfl⟩
      rw [splitPair_pair] at hPart
      rcases List.mem_cons.mp hPart with rfl | hPart
      · exact fun hPair => by simpa using hPair.length_le
      · exact ih hPart
  | case4 c d tail hPair hNone ih =>
      exact absurd hNone (splitPair_ne_nil a b (d :: tail))
  | case5 c d tail hPair first parts hRest ih =>
      rw [splitPair, if_neg hPair, hRest] at hPart
      rw [hRest] at ih
      rcases List.mem_cons.mp hPart with rfl | hPart
      · intro hWithin
        rcases List.infix_cons_iff.mp hWithin with
          hFront | hLater
        · -- The part goes on as the text does.
          have hText := intercalate_splitPair a b (d :: tail)
          rcases hFront with ⟨more, hMore⟩
          rcases List.cons.inj hMore with ⟨rfl, rfl⟩
          rw [hRest] at hText
          rcases List.cons.inj
              ((intercalate_cons_head _ _ _ _).symm.trans
                hText) with ⟨rfl, _⟩
          exact hPair ⟨rfl, rfl⟩
        · exact ih List.mem_cons_self hLater
      · exact ih (List.mem_cons_of_mem _ hPart)

/-
  A separator is found wherever the text is put together. Its
  two signs differ, so it never overlaps what comes before.
-/
theorem splitPair_append
    (hab : a ≠ b)
    (cs rest : List Char) :
    splitPair a b (cs ++ a :: b :: rest) =
      splitPair a b cs ++ splitPair a b rest := by
  induction cs using splitPair.induct a b with
  | case1 => exact splitPair_pair a b rest
  | case2 c =>
      refine splitPair_cons ?_ (splitPair_pair a b rest)
      rintro ⟨more, hMore⟩
      cases hMore
      exact hab rfl
  | case3 c d tail hPair ih =>
      rcases hPair with ⟨rfl, rfl⟩
      rw [List.cons_append, List.cons_append, splitPair_pair,
        splitPair_pair, ih, List.cons_append]
  | case4 c d tail hPair hNone ih =>
      exact absurd hNone (splitPair_ne_nil a b (d :: tail))
  | case5 c d tail hPair part parts hRest ih =>
      rw [hRest] at ih
      rw [splitPair, if_neg hPair, hRest]
      refine splitPair_cons ?_ ih
      rintro ⟨more, hMore⟩
      cases hMore
      exact hPair ⟨rfl, rfl⟩

theorem splitPair_eq_singleton
    (hPart : ¬ [a, b] <:+: part) :
    splitPair a b part = [part] := by
  induction part with
  | nil => rfl
  | cons c part ih =>
      have hRest :=
        ih fun hPair => hPart (List.infix_cons hPair)
      exact splitPair_cons
        (fun hPair => hPart hPair.isInfix) hRest

/- Texts that are put together are cut each on its own. -/
theorem splitPair_intercalate
    (hab : a ≠ b)
    (hSome : parts ≠ []) :
    splitPair a b (List.intercalate [a, b] parts) =
      parts.flatMap (splitPair a b) := by
  induction parts with
  | nil => exact absurd rfl hSome
  | cons part parts ih =>
      cases parts with
      | nil =>
          rw [List.intercalate_singleton,
            List.flatMap_singleton]
      | cons next parts =>
          have hRest := ih (List.cons_ne_nil _ _)
          rw [List.intercalate_cons_cons, List.append_assoc,
            List.flatMap_cons, ← hRest]
          exact splitPair_append hab part _

------------------------------------------------------------
-- Lists
------------------------------------------------------------

variable {s : String}
variable {names : List String}
variable {bad : Char → Bool}

theorem toList_joinList (names : List String) :
    (joinList names).toList =
      List.intercalate [',', ' '] (names.map String.toList) :=
  String.toList_intercalate

/- The parts of a list are those of the texts it is made of. -/
theorem splitList_joinList_eq_flatMap
    (hSome : names ≠ []) :
    splitList (joinList names) = names.flatMap splitList := by
  have hTexts : names.map String.toList ≠ [] := by
    simpa using hSome
  unfold splitList
  rw [toList_joinList, splitPair_intercalate (by decide) hTexts,
    List.flatMap_map, List.map_flatMap]

theorem splitList_eq_singleton
    (hPart : ¬ [',', ' '] <:+: s.toList) :
    splitList s = [s] := by
  unfold splitList
  rw [splitPair_eq_singleton hPart, List.map_singleton,
    String.ofList_toList]

/- The parts of a list with separators between them. -/
theorem joinList_splitList (s : String) :
    joinList (splitList s) = s := by
  apply String.toList_inj.mp
  unfold splitList
  rw [toList_joinList, List.map_map]
  have hSame :
      String.toList ∘ String.ofList =
        (id : List Char → List Char) :=
    funext fun _ => String.toList_ofList
  rw [hSame, List.map_id]
  exact intercalate_splitPair ',' ' ' s.toList

theorem not_infix_of_mem_splitList
    {name : String}
    (hName : name ∈ splitList s) :
    ¬ [',', ' '] <:+: name.toList := by
  rcases List.mem_map.mp hName with ⟨part, hPart, rfl⟩
  rw [String.toList_ofList]
  exact not_infix_of_mem_splitPair hPart

theorem Avoids.splitList
    {name : String}
    (hAvoids : Avoids bad s)
    (hName : name ∈ Text.splitList s) :
    Avoids bad name := by
  rcases List.mem_map.mp hName with ⟨part, hPart, rfl⟩
  refine Avoids.ofList fun c hc => hAvoids c ?_
  rw [← intercalate_splitPair ',' ' ' s.toList]
  exact mem_intercalate_of_mem _ hPart hc

/- A list that is cut avoids what it did, except for dots. -/
theorem Avoids.limit
    (hAvoids : Avoids bad s)
    (hDot : bad '.' = false)
    (n : Nat) :
    Avoids bad (Text.limit n s) := by
  have hDots : Avoids bad "..." := by
    intro c hc
    have hSame : c = '.' := by simpa using hc
    rw [hSame, hDot]
  unfold Text.limit
  split
  · refine Avoids.append (Avoids.ofList fun c hc => ?_) hDots
    exact hAvoids c (List.mem_of_mem_take hc)
  · exact hAvoids

theorem limit_of_length_le
    {n : Nat}
    (hShort : s.toList.length ≤ n) :
    limit n s = s :=
  if_neg (Nat.not_lt.mpr hShort)

end Text

namespace Capture

------------------------------------------------------------
-- Folders
------------------------------------------------------------

variable {path : String}

theorem avoids_fileName (path : String) :
    Text.Avoids isFolderSign (fileName path) := by
  refine Text.Avoids.ofList fun c hc => ?_
  have hTaken := List.mem_takeWhile_imp (List.mem_reverse.mp hc)
  simpa using hTaken

/- A path without folders is the name of its file. -/
theorem fileName_of_avoids
    (hAvoids : Text.Avoids isFolderSign path) :
    fileName path = path := by
  have hAll :
      path.toList.reverse.takeWhile
          (fun c => !isFolderSign c) =
        path.toList.reverse := by
    rw [List.takeWhile_eq_self_iff]
    intro c hc
    rw [hAvoids c (List.mem_reverse.mp hc)]
    rfl
  unfold fileName Text.afterLast
  rw [hAll, List.reverse_reverse, String.ofList_toList]

/- Where there are no folders nothing is taken away. -/
theorem fileNames_of_avoids
    {paths : String}
    (hBare : Text.Avoids isFolderSign paths) :
    fileNames paths = paths := by
  have hNames :
      (Text.splitList paths).map fileName =
        (Text.splitList paths).map id := by
    apply List.map_congr_left
    intro path hPath
    exact fileName_of_avoids (hBare.splitList hPath)
  unfold fileNames
  rw [hNames, List.map_id, Text.joinList_splitList]

theorem avoids_fileNames (paths : String) :
    Text.Avoids isFolderSign (fileNames paths) := by
  refine Text.Avoids.intercalate (by decide) ?_
  intro name hName
  rcases List.mem_map.mp hName with ⟨path, _, rfl⟩
  exact avoids_fileName path

end Capture

------------------------------------------------------------
-- Uploads
------------------------------------------------------------

namespace Action

/- Whether an upload tells the name of no file. -/
def LacksFile (a : Action) : Prop :=
  a.kind = .upload ∧
    ∀ path ∈ Text.splitList (a.valueText?.getD ""),
      Text.isBlankText (Capture.fileName path) = true

instance (a : Action) : Decidable a.LacksFile := by
  unfold LacksFile
  infer_instance

/- Whether an upload tells nothing of folders. -/
def HasBareNames (a : Action) : Prop :=
  a.kind = .upload →
    Text.Avoids Capture.isFolderSign (a.valueText?.getD "")

end Action

namespace Capture

variable {settings : Settings}
variable {a : Action}

/- An upload keeps the names of its files, if not too long. -/
theorem Settings.valueText?_sanitise_upload
    (hKind : a.kind = .upload)
    (hPassword : a.isPassword = false) :
    (settings.sanitise a).valueText? =
      a.valueText?.map fun paths =>
        Text.limit settings.valueLimit (fileNames paths) := by
  unfold Settings.sanitise Action.valueText?
  rw [hKind, hPassword]
  cases a.value with
  | none => rfl
  | some value => cases value <;> rfl

theorem Settings.hasBareNames_sanitise
    (hPassword : a.kind = .upload → a.isPassword = false) :
    (settings.sanitise a).HasBareNames := by
  intro hUpload
  have hKind : a.kind = .upload := hUpload
  rw [valueText?_sanitise_upload hKind (hPassword hKind)]
  cases a.valueText? with
  | none => exact Text.avoids_empty
  | some paths =>
      exact (avoids_fileNames paths).limit (by decide) _

end Capture

end Clickstream
