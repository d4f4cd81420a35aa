import Mathlib.Data.List.Forall2
import Clickstream.Proofs.Capture.FileNames

/-
  Sanitising: what it leaves of an action. A text that was
  cut is not cut again, a name without folders has none to
  lose, and a marker stays a marker. So what is fit to be seen
  is what sanitising leaves alone, and whatever it makes is
  fit to be seen.

  Key definitions:
    * `Text.IsLimited`
    * `Action.bareText`
    * `Settings.IsFit`: actions that are fit to be seen
    * `Settings.Bounds`, `Settings.Spares`

  Key theorems:
    * `Text.isLimited_limit`, `Text.limit_of_isLimited`
    * `Settings.isFit_sanitise`, `Settings.sanitise_of_isFit`
    * `Settings.sanitise_stable`
-/

namespace Clickstream

------------------------------------------------------------
-- Lengths
------------------------------------------------------------

namespace Text

variable {n : Nat}
variable {s : String}

/-
  Whether a text has at most `n` characters, or `n` of them
  and the three dots.
-/
def IsLimited (n : Nat) (s : String) : Prop :=
  s.toList.length ≤ n ∨
    ∃ cs : List Char,
      cs.length = n ∧ s.toList = cs ++ ['.', '.', '.']

theorem toList_limit_of_lt
    (hLong : n < s.toList.length) :
    (limit n s).toList =
      s.toList.take n ++ ['.', '.', '.'] := by
  unfold limit firstChars
  rw [if_pos hLong, String.toList_append,
    String.toList_ofList]
  rfl

theorem isLimited_limit (n : Nat) (s : String) :
    IsLimited n (limit n s) := by
  by_cases hLong : n < s.toList.length
  · refine Or.inr ⟨s.toList.take n, ?_, toList_limit_of_lt hLong⟩
    rw [List.length_take]
    omega
  · left
    rw [limit_of_length_le (Nat.not_lt.mp hLong)]
    omega

/- A limited text is not cut, not even where it has dots. -/
theorem limit_of_isLimited
    (hLimited : IsLimited n s) :
    limit n s = s := by
  rcases hLimited with hShort | ⟨cs, hLength, hDots⟩
  · exact limit_of_length_le hShort
  · have hLong : n < s.toList.length := by
      rw [hDots, List.length_append, hLength]
      simp
    apply String.toList_inj.mp
    rw [toList_limit_of_lt hLong, hDots,
      List.take_left' hLength]

theorem IsLimited.length_le
    (hLimited : IsLimited n s) :
    s.toList.length ≤ n + 3 := by
  rcases hLimited with hShort | ⟨cs, hLength, hDots⟩
  · omega
  · rw [hDots, List.length_append, hLength]
    rfl

end Text

------------------------------------------------------------
-- Actions Fit to Be Seen
------------------------------------------------------------

/- A text of an action, without folders if it tells of files. -/
def Action.bareText (a : Action) (t : String) : String :=
  if a.kind = .upload then Capture.fileNames t else t

namespace Capture

namespace Settings

variable {settings : Settings}
variable {a seen : Action}
variable {items : List String}
variable {t : String}

/-
  Whether an action is fit to be seen. A password field shows
  the marker and no text; all other texts are limited, and an
  upload tells nothing of folders.
-/
structure IsFit (settings : Settings) (a : Action) : Prop where
  marker :
    a.isPassword = true →
      ∀ t, a.value = some (.text t) → t = settings.marker
  value :
    a.isPassword = false →
      ∀ t,
        a.value = some (.text t) →
          Text.IsLimited settings.valueLimit t ∧
            (a.kind = .upload → Text.Avoids isFolderSign t)
  items :
    ∀ items,
      a.value = some (.list items) →
        ∀ item ∈ items,
          Text.IsLimited settings.valueLimit item
  text :
    ∀ t,
      a.text = some t →
        a.isPassword = false ∧
          Text.IsLimited settings.valueLimit t

/-
  Whether no text of an action is longer than the limit and
  three dots, the marker apart.
-/
structure Bounds (settings : Settings) (a : Action) : Prop where
  value :
    ∀ t,
      a.value = some (.text t) →
        t = settings.marker ∨
          t.toList.length ≤ settings.valueLimit + 3
  items :
    ∀ items,
      a.value = some (.list items) →
        ∀ item ∈ items,
          item.toList.length ≤ settings.valueLimit + 3
  text :
    ∀ t,
      a.text = some t →
        t.toList.length ≤ settings.valueLimit + 3

/-
  Whether the texts of an action within the limit are all to
  be seen, the folders of files and the texts of a password
  field apart.
-/
structure Spares
    (settings : Settings)
    (a seen : Action) : Prop where
  value :
    a.isPassword = false →
      ∀ t,
        a.value = some (.text t) →
          (a.bareText t).toList.length ≤
              settings.valueLimit →
            seen.value = some (.text (a.bareText t))
  items :
    ∀ items,
      a.value = some (.list items) →
        ∃ others,
          seen.value = some (.list others) ∧
            List.Forall₂
              (fun item other =>
                item.toList.length ≤ settings.valueLimit →
                  other = item)
              items others
  text :
    a.isPassword = false →
      ∀ t,
        a.text = some t →
          t.toList.length ≤ settings.valueLimit →
            seen.text = some t
  hidden :
    a.isPassword = true →
      seen.text = none ∧
        ∀ t,
          a.value = some (.text t) →
            seen.value = some (.text settings.marker)

------------------------------------------------------------
-- What Sanitising Does
------------------------------------------------------------

theorem value_sanitise (settings : Settings) (a : Action) :
    (settings.sanitise a).value =
      a.value.map
        (settings.sanitiseValue a.isPassword
          (a.kind = .upload)) :=
  rfl

theorem text_sanitise_of_password
    (hPassword : a.isPassword = true) :
    (settings.sanitise a).text = none :=
  if_pos hPassword

theorem text_sanitise
    (hPassword : a.isPassword = false) :
    (settings.sanitise a).text =
      a.text.map (Text.limit settings.valueLimit) := by
  unfold sanitise
  rw [if_neg (by simp [hPassword])]

/- The text of a password field gives way to the marker. -/
theorem sanitiseValue_text_of_password
    (settings : Settings)
    (hPassword : a.isPassword = true)
    (t : String) :
    settings.sanitiseValue a.isPassword (a.kind = .upload)
        (.text t) =
      .text settings.marker := by
  rw [hPassword]
  rfl

/- Any other text loses its folders and is cut. -/
theorem sanitiseValue_text
    (settings : Settings)
    (hPassword : a.isPassword = false)
    (t : String) :
    settings.sanitiseValue a.isPassword (a.kind = .upload)
        (.text t) =
      .text
        (Text.limit settings.valueLimit (a.bareText t)) := by
  unfold sanitiseValue Action.bareText
  rw [hPassword]
  by_cases hUpload : a.kind = .upload
  · simp [hUpload]
  · simp [hUpload]

/- A text of a sanitised action comes from one before. -/
theorem exists_of_value_sanitise_text
    (hValue :
      (settings.sanitise a).value = some (.text t)) :
    ∃ old,
      settings.sanitiseValue a.isPassword (a.kind = .upload)
          (.text old) =
        .text t := by
  rw [value_sanitise, Option.map_eq_some_iff] at hValue
  rcases hValue with ⟨value, _, hSame⟩
  cases value with
  | text old => exact ⟨old, hSame⟩
  | list items => cases hSame
  | flag on => cases hSame

/- So does every list. -/
theorem exists_of_value_sanitise_list
    (hValue :
      (settings.sanitise a).value = some (.list items)) :
    ∃ old,
      a.value = some (.list old) ∧
        items = old.map (Text.limit settings.valueLimit) := by
  rw [value_sanitise, Option.map_eq_some_iff] at hValue
  rcases hValue with ⟨value, hOld, hSame⟩
  cases value with
  | text t =>
      cases hPassword : a.isPassword with
      | true =>
          rw [sanitiseValue_text_of_password settings hPassword]
            at hSame
          cases hSame
      | false =>
          rw [sanitiseValue_text settings hPassword] at hSame
          cases hSame
  | list old =>
      cases hSame
      exact ⟨old, hOld, rfl⟩
  | flag on => cases hSame

/- A text without folders is all that there is to tell. -/
theorem bareText_of_avoids
    (hBare : a.kind = .upload → Text.Avoids isFolderSign t) :
    a.bareText t = t := by
  unfold Action.bareText
  split
  next hUpload => exact fileNames_of_avoids (hBare hUpload)
  next => rfl

theorem avoids_bareText
    (hUpload : a.kind = .upload)
    (t : String) :
    Text.Avoids isFolderSign (a.bareText t) := by
  unfold Action.bareText
  rw [if_pos hUpload]
  exact avoids_fileNames t

/- Whatever sanitising makes is fit to be seen. -/
theorem isFit_sanitise (settings : Settings) (a : Action) :
    settings.IsFit (settings.sanitise a) where
  marker := by
    intro hPassword t hValue
    have hSecret : a.isPassword = true := hPassword
    rcases exists_of_value_sanitise_text hValue with
      ⟨old, hSame⟩
    rw [sanitiseValue_text_of_password settings hSecret]
      at hSame
    cases hSame
    rfl
  value := by
    intro hPassword t hValue
    have hOpen : a.isPassword = false := hPassword
    rcases exists_of_value_sanitise_text hValue with
      ⟨old, hSame⟩
    rw [sanitiseValue_text settings hOpen] at hSame
    cases hSame
    refine ⟨Text.isLimited_limit _ _, ?_⟩
    intro hUpload
    exact (avoids_bareText hUpload old).limit (by decide) _
  items := by
    intro items hValue item hItem
    rcases exists_of_value_sanitise_list hValue with
      ⟨old, _, rfl⟩
    rcases List.mem_map.mp hItem with ⟨first, _, rfl⟩
    exact Text.isLimited_limit _ _
  text := by
    intro t hText
    cases hPassword : a.isPassword with
    | true =>
        rw [text_sanitise_of_password hPassword] at hText
        cases hText
    | false =>
        rw [text_sanitise hPassword, Option.map_eq_some_iff]
          at hText
        rcases hText with ⟨old, _, rfl⟩
        exact ⟨hPassword, Text.isLimited_limit _ _⟩

/- The value of an action that is fit to be seen stays. -/
theorem IsFit.sanitiseValue_eq
    {value : Action.Value}
    (hFit : settings.IsFit a)
    (hValue : a.value = some value) :
    settings.sanitiseValue a.isPassword (a.kind = .upload)
        value =
      value := by
  cases value with
  | text t =>
      cases hPassword : a.isPassword with
      | true =>
          rw [hFit.marker hPassword t hValue]
          rfl
      | false =>
          rcases hFit.value hPassword t hValue with
            ⟨hLimited, hBare⟩
          rw [← hPassword,
            sanitiseValue_text settings hPassword,
            bareText_of_avoids hBare,
            Text.limit_of_isLimited hLimited]
  | list items =>
      have hSame :
          items.map (Text.limit settings.valueLimit) =
            items.map id :=
        List.map_congr_left fun item hItem =>
          Text.limit_of_isLimited
            (hFit.items items hValue item hItem)
      rw [List.map_id] at hSame
      exact congrArg Action.Value.list hSame
  | flag on => rfl

/- What is fit to be seen is left alone. -/
theorem sanitise_of_isFit
    (hFit : settings.IsFit a) :
    settings.sanitise a = a := by
  have hValue : (settings.sanitise a).value = a.value := by
    rw [value_sanitise]
    cases hOld : a.value with
    | none => rfl
    | some value =>
        rw [Option.map_some, hFit.sanitiseValue_eq hOld]
  have hText : (settings.sanitise a).text = a.text := by
    cases hOld : a.text with
    | none =>
        unfold sanitise
        rw [hOld]
        exact ite_self none
    | some t =>
        rcases hFit.text t hOld with ⟨hPassword, hLimited⟩
        rw [text_sanitise hPassword, hOld, Option.map_some,
          Text.limit_of_isLimited hLimited]
  calc settings.sanitise a
      = { a with
          value := (settings.sanitise a).value
          text := (settings.sanitise a).text } := rfl
    _ = a := by rw [hValue, hText]

------------------------------------------------------------
-- Bounds
------------------------------------------------------------

theorem IsFit.bounds
    (hFit : settings.IsFit a) :
    settings.Bounds a where
  value := by
    intro t hValue
    cases hPassword : a.isPassword with
    | true => exact Or.inl (hFit.marker hPassword t hValue)
    | false =>
        exact Or.inr
          (hFit.value hPassword t hValue).1.length_le
  items := by
    intro items hValue item hItem
    exact (hFit.items items hValue item hItem).length_le
  text := by
    intro t hText
    exact (hFit.text t hText).2.length_le

theorem spares_sanitise (settings : Settings) (a : Action) :
    settings.Spares a (settings.sanitise a) where
  value := by
    intro hPassword t hValue hShort
    rw [value_sanitise, hValue, Option.map_some,
      sanitiseValue_text settings hPassword,
      Text.limit_of_length_le hShort]
  items := by
    intro items hValue
    refine ⟨items.map (Text.limit settings.valueLimit), ?_, ?_⟩
    · rw [value_sanitise, hValue]
      rfl
    · rw [List.forall₂_map_right_iff, List.forall₂_same]
      intro item _ hShort
      exact Text.limit_of_length_le hShort
  text := by
    intro hPassword t hText hShort
    rw [text_sanitise hPassword, hText, Option.map_some,
      Text.limit_of_length_le hShort]
  hidden := by
    intro hPassword
    refine ⟨text_sanitise_of_password hPassword, ?_⟩
    intro t hValue
    rw [value_sanitise, hValue, Option.map_some,
      sanitiseValue_text_of_password settings hPassword]

/-
  Sanitising once is enough. Afterwards no text is longer than
  the limit and three dots, the marker apart, while texts
  within the limit are not cut; an upload that is no password
  has no folder in it, and nothing but value and text has
  changed.
-/
theorem sanitise_stable (settings : Settings) (a : Action) :
    settings.sanitise (settings.sanitise a) =
        settings.sanitise a ∧
      settings.Bounds (settings.sanitise a) ∧
      settings.Spares a (settings.sanitise a) ∧
      (a.kind = .upload →
        a.isPassword = false →
          ∀ t,
            (settings.sanitise a).value = some (.text t) →
              '/' ∉ t.toList ∧ '\\' ∉ t.toList) ∧
      { settings.sanitise a with
          value := a.value
          text := a.text } = a := by
  have hFit := settings.isFit_sanitise a
  refine ⟨sanitise_of_isFit hFit, hFit.bounds,
    settings.spares_sanitise a, ?_, rfl⟩
  intro hUpload hPassword t hValue
  have hBare : Text.Avoids isFolderSign t :=
    (hFit.value hPassword t hValue).2 hUpload
  exact ⟨fun hSlash => Bool.noConfusion (hBare '/' hSlash),
    fun hSlash => Bool.noConfusion (hBare '\\' hSlash)⟩

/- An upload of two files, with their folders. -/
def papers : Action where
  kind := .upload
  value := some (.text "C:\\docs\\cv.pdf, /tmp/note.txt")
  inputType := some "file"

theorem sanitise_stable_papers :
    papers.kind = .upload ∧
      papers.isPassword = false ∧
      (sanitise { valueLimit := 9 } papers).value =
        some (.text "cv.pdf, n...") ∧
      '/' ∉ "cv.pdf, n...".toList ∧
      '\\' ∉ "cv.pdf, n...".toList := by
  have hKind : papers.kind = .upload := rfl
  have hPassword : papers.isPassword = false := by decide
  have hValue :
      (sanitise { valueLimit := 9 } papers).value =
        some (.text "cv.pdf, n...") := by
    decide +kernel
  have hBare :=
    (sanitise_stable { valueLimit := 9 } papers).2.2.2.1
  exact ⟨hKind, hPassword, hValue,
    hBare hKind hPassword _ hValue⟩

end Settings

end Capture

end Clickstream
