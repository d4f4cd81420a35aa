import Mathlib.Data.List.TakeWhile
import Clickstream.Text.Words
import Clickstream.Proofs.Text.Plain

/-
  The words of a name hold something, and nothing but letters
  and digits, in whatever case they are written.

  Key theorems:
    * `Text.ne_nil_of_mem_words`
    * `Text.isAlphanumeric_of_mem_words`
    * `Text.isAlphanumeric_of_mem_capitalize`
    * `Text.plain_of_isAlphanumeric`
-/

namespace Clickstream

namespace Text

------------------------------------------------------------
-- Single Characters
------------------------------------------------------------

/- Letters and digits lie in the ASCII range. -/
theorem toNat_lt_of_isAlphanumeric
    {c : Char}
    (hc : isAlphanumeric c = true) :
    c.toNat < 128 := by
  simp only [isAlphanumeric, isLetter, isLower, isUpper,
    isDigit, Bool.or_eq_true, Bool.and_eq_true,
    decide_eq_true_eq, Char.le_def,
    UInt32.le_iff_toNat_le] at hc
  change c.val.toNat < 128
  have hz : 'z'.val.toNat = 122 := by decide
  have hZ : 'Z'.val.toNat = 90 := by decide
  have h9 : '9'.val.toNat = 57 := by decide
  omega

/-
  What holds of every ASCII letter and digit holds of every
  letter and digit.
-/
theorem forall_isAlphanumeric
    {p : Char → Prop}
    (hAscii :
      ∀ n < 128, isAlphanumeric (Char.ofNat n) = true →
        p (Char.ofNat n))
    {c : Char}
    (hc : isAlphanumeric c = true) :
    p c := by
  have hChar : Char.ofNat c.toNat = c := Char.ofNat_toNat c
  have hBound := toNat_lt_of_isAlphanumeric hc
  have hResult := hAscii c.toNat hBound
  rw [hChar] at hResult
  exact hResult hc

/- Small letters and digits stay letters and digits. -/
theorem isAlphanumeric_toLower
    {c : Char}
    (hc : isAlphanumeric c = true) :
    isAlphanumeric c.toLower = true :=
  forall_isAlphanumeric
    (p := fun c => isAlphanumeric c.toLower = true)
    (by decide) hc

/- So do capitals. -/
theorem isAlphanumeric_toUpper
    {c : Char}
    (hc : isAlphanumeric c = true) :
    isAlphanumeric c.toUpper = true :=
  forall_isAlphanumeric
    (p := fun c => isAlphanumeric c.toUpper = true)
    (by decide) hc

theorem isAlphanumeric_of_isLower
    {c : Char}
    (hc : isLower c = true) :
    isAlphanumeric c = true := by
  simp [isAlphanumeric, isLetter, hc]

/- Small letters come back from capitals. -/
theorem toLower_toUpper
    {c : Char}
    (hc : isLower c = true) :
    c.toUpper.toLower = c :=
  forall_isAlphanumeric
    (p := fun c =>
      isLower c = true → c.toUpper.toLower = c)
    (by decide) (isAlphanumeric_of_isLower hc) hc

/- So do texts of small letters. -/
theorem lower_upper
    {s : String}
    (hs : ∀ c ∈ s.toList, isLower c = true) :
    lower (upper s) = s := by
  unfold lower upper
  rw [String.toList_ofList, List.map_map,
    List.map_congr_left (g := id)]
  · rw [List.map_id, String.ofList_toList]
  · intro c hc
    exact toLower_toUpper (hs c hc)

theorem isAlphanumeric_of_isUpper
    {c : Char}
    (hc : isUpper c = true) :
    isAlphanumeric c = true := by
  simp [isAlphanumeric, isLetter, hc]

theorem isAlphanumeric_of_isDigit
    {c : Char}
    (hc : isDigit c = true) :
    isAlphanumeric c = true := by
  simp [isAlphanumeric, hc]

theorem isLower_of_isDigit
    {c : Char}
    (hc : isDigit c = true) :
    isLower c = false :=
  forall_isAlphanumeric
    (p := fun c => isDigit c = true → isLower c = false)
    (by decide) (isAlphanumeric_of_isDigit hc) hc

/- No letter stays small where it is made a capital. -/
theorem isLower_toUpper
    {c : Char}
    (hc : isAlphanumeric c = true) :
    isLower c.toUpper = false :=
  forall_isAlphanumeric
    (p := fun c => isLower c.toUpper = false)
    (by decide) hc

theorem isAlphanumeric_of_isSmall
    {c : Char}
    (hc : isSmall c = true) :
    isAlphanumeric c = true := by
  simp only [isSmall, Bool.or_eq_true] at hc
  rcases hc with hc | hc <;>
    simp [isAlphanumeric, isLetter, hc]

/- No small letter or digit is a capital. -/
theorem isUpper_of_isSmall
    {c : Char}
    (hc : isSmall c = true) :
    isUpper c = false :=
  forall_isAlphanumeric
    (p := fun c => isSmall c = true → isUpper c = false)
    (by decide) (isAlphanumeric_of_isSmall hc) hc

theorem isSmall_of_isUpper
    {c : Char}
    (hc : isUpper c = true) :
    isSmall c = false := by
  by_contra hSmall
  rw [Bool.not_eq_false] at hSmall
  rw [isUpper_of_isSmall hSmall] at hc
  cases hc

/- Every letter or digit is one or the other. -/
theorem isAlphanumeric_iff
    {c : Char} :
    isAlphanumeric c = true ↔
      isUpper c = true ∨ isSmall c = true := by
  simp only [isAlphanumeric, isLetter, isSmall,
    Bool.or_eq_true]
  rw [or_right_comm, or_comm]

------------------------------------------------------------
-- Words
------------------------------------------------------------

/-
  A word holds letters and digits only. The induction follows
  the three ways in which `rawWords` goes on.
-/
theorem isAlphanumeric_of_mem_rawWords
    {cs word : List Char}
    (hWord : word ∈ rawWords cs) :
    ∀ c ∈ word, isAlphanumeric c = true := by
  induction cs using rawWords.induct with
  | case1 => simp [rawWords] at hWord
  | case2 first rest hFirst ih =>
      rw [rawWords, if_pos hFirst, List.mem_cons] at hWord
      rcases hWord with rfl | hWord
      · intro c hc
        rw [List.mem_append, List.mem_cons] at hc
        rcases hc with (rfl | hc) | hc
        · exact isAlphanumeric_of_isUpper hFirst
        · exact isAlphanumeric_of_isUpper
            (List.mem_takeWhile_imp hc)
        · exact isAlphanumeric_of_isSmall
            (List.mem_takeWhile_imp hc)
      · exact ih hWord
  | case3 first rest hFirst hSmall ih =>
      rw [rawWords, if_neg hFirst, if_pos hSmall,
        List.mem_cons] at hWord
      rcases hWord with rfl | hWord
      · intro c hc
        rw [List.mem_cons] at hc
        rcases hc with rfl | hc
        · exact isAlphanumeric_of_isSmall hSmall
        · exact isAlphanumeric_of_isSmall
            (List.mem_takeWhile_imp hc)
      · exact ih hWord
  | case4 first rest hFirst hSmall ih =>
      rw [rawWords, if_neg hFirst, if_neg hSmall] at hWord
      exact ih hWord

/- A word holds something. -/
theorem ne_nil_of_mem_rawWords
    {cs word : List Char}
    (hWord : word ∈ rawWords cs) :
    word ≠ [] := by
  induction cs using rawWords.induct with
  | case1 => simp [rawWords] at hWord
  | case2 first rest hFirst ih =>
      rw [rawWords, if_pos hFirst, List.mem_cons] at hWord
      rcases hWord with rfl | hWord
      · exact List.cons_ne_nil _ _
      · exact ih hWord
  | case3 first rest hFirst hSmall ih =>
      rw [rawWords, if_neg hFirst, if_pos hSmall,
        List.mem_cons] at hWord
      rcases hWord with rfl | hWord
      · exact List.cons_ne_nil _ _
      · exact ih hWord
  | case4 first rest hFirst hSmall ih =>
      rw [rawWords, if_neg hFirst, if_neg hSmall] at hWord
      exact ih hWord

theorem ne_nil_of_mem_words
    {name : String}
    {word : List Char}
    (hWord : word ∈ words name) :
    word ≠ [] := by
  rcases List.mem_map.mp hWord with ⟨raw, hRaw, rfl⟩
  simpa using ne_nil_of_mem_rawWords hRaw

/- Words in small letters hold letters and digits only. -/
theorem isAlphanumeric_of_mem_words
    {name : String}
    {word : List Char}
    (hWord : word ∈ words name) :
    ∀ c ∈ word, isAlphanumeric c = true := by
  rcases List.mem_map.mp hWord with ⟨raw, hRaw, rfl⟩
  intro c hc
  rcases List.mem_map.mp hc with ⟨d, hd, rfl⟩
  exact isAlphanumeric_toLower
    (isAlphanumeric_of_mem_rawWords hRaw d hd)

/- A capital in front changes nothing about that. -/
theorem isAlphanumeric_of_mem_capitalize
    {word : List Char}
    (hWord : ∀ c ∈ word, isAlphanumeric c = true) :
    ∀ c ∈ capitalize word, isAlphanumeric c = true := by
  cases word with
  | nil => simp [capitalize]
  | cons first rest =>
      intro c hc
      rw [capitalize, List.mem_cons] at hc
      rcases hc with rfl | hc
      · exact isAlphanumeric_toUpper (hWord first (by simp))
      · exact hWord c (by simp [hc])

/- Letters and digits make a plain text. -/
theorem plain_of_isAlphanumeric
    {cs : List Char}
    (hChars : ∀ c ∈ cs, isAlphanumeric c = true) :
    Plain (String.ofList cs) :=
  Avoids.ofList fun c hc =>
    isSpecial_eq_false_of_isAlphanumeric (hChars c hc)

end Text

end Clickstream
