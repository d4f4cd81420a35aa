import Mathlib.Data.List.TakeWhile
import Clickstream.Text.Blank
import Clickstream.Proofs.Text.Alphanumeric

/-
  Trimmed texts. Trimming gives a text without blanks around
  it and leaves such a text alone; small letters bring no
  blanks and take none away.

  Key definitions:
    * `Text.IsTrimmed`, `Text.IsTold`

  Key theorems:
    * `Text.isTrimmed_trim`, `Text.trim_of_isTrimmed`
    * `Text.isBlankText_trim`
    * `Text.isTold_of_nonBlank`, `Text.nonBlank_of_isTold`
    * `Text.isBlankText_lower`, `Text.IsTrimmed.lower`
-/

namespace Clickstream

namespace Text

variable {c : Char}
variable {cs : List Char}
variable {s t : String}

------------------------------------------------------------
-- Trimming
------------------------------------------------------------

/- Whether no blank stands first or last. -/
structure IsTrimmed (s : String) : Prop where
  front : ∀ c, s.toList.head? = some c → isBlank c = false
  back : ∀ c, s.toList.getLast? = some c → isBlank c = false

/- A text that tells something, without blanks around it. -/
structure IsTold (s : String) : Prop where
  ne_empty : s ≠ ""
  isTrimmed : IsTrimmed s

theorem isBlank_of_head?_dropWhile
    (hHead : (cs.dropWhile isBlank).head? = some c) :
    isBlank c = false := by
  have hNot := List.head?_dropWhile_not isBlank cs
  rw [hHead] at hNot
  exact hNot

/- What is dropped at the back leaves the front as it is. -/
theorem head?_of_head?_trimBack
    (hHead : (trimBack cs).head? = some c) :
    cs.head? = some c := by
  have hPrefix : trimBack cs <+: cs := by
    rw [← List.reverse_suffix]
    unfold trimBack
    rw [List.reverse_reverse]
    exact List.dropWhile_suffix _
  rcases hPrefix with ⟨rest, hRest⟩
  rw [← hRest, List.head?_append, hHead]
  rfl

theorem isTrimmed_trim (s : String) : IsTrimmed (trim s) where
  front := by
    intro c hHead
    unfold trim trimChars at hHead
    rw [String.toList_ofList] at hHead
    exact isBlank_of_head?_dropWhile
      (head?_of_head?_trimBack hHead)
  back := by
    intro c hLast
    unfold trim trimChars trimBack at hLast
    rw [String.toList_ofList, List.getLast?_reverse] at hLast
    exact isBlank_of_head?_dropWhile hLast

theorem dropWhile_isBlank_of_head?
    (hHead : ∀ c, cs.head? = some c → isBlank c = false) :
    cs.dropWhile isBlank = cs := by
  cases cs with
  | nil => rfl
  | cons c cs =>
      rw [List.dropWhile_cons_of_neg]
      rw [hHead c rfl]
      exact Bool.false_ne_true

/- Where no blank stands around a text there is none to drop. -/
theorem trim_of_isTrimmed
    (hTrimmed : IsTrimmed s) :
    trim s = s := by
  have hFront : trimFront s.toList = s.toList :=
    dropWhile_isBlank_of_head? hTrimmed.front
  have hBack : trimBack s.toList = s.toList := by
    unfold trimBack
    rw [dropWhile_isBlank_of_head?, List.reverse_reverse]
    intro c hHead
    rw [List.head?_reverse] at hHead
    exact hTrimmed.back c hHead
  unfold trim trimChars
  rw [hFront, hBack, String.ofList_toList]

/- Blanks that are dropped are blank. -/
theorem all_isBlank_dropWhile (cs : List Char) :
    (cs.dropWhile isBlank).all isBlank = cs.all isBlank := by
  conv =>
    rhs
    rw [← List.takeWhile_append_dropWhile (p := isBlank)
      (l := cs)]
  rw [List.all_append, List.all_takeWhile, Bool.true_and]

theorem isBlankText_trim (s : String) :
    isBlankText (trim s) = isBlankText s := by
  unfold isBlankText trim trimChars trimBack trimFront
  rw [String.toList_ofList, List.all_reverse,
    all_isBlank_dropWhile, List.all_reverse,
    all_isBlank_dropWhile]

/- A text that tells something is not blank. -/
theorem IsTold.isBlankText_eq_false
    (hTold : IsTold s) :
    isBlankText s = false := by
  cases hList : s.toList with
  | nil =>
      rw [String.toList_eq_nil_iff] at hList
      exact absurd hList hTold.ne_empty
  | cons c cs =>
      have hBlank := hTold.isTrimmed.front c (by rw [hList]; rfl)
      unfold isBlankText
      rw [hList, List.all_cons, hBlank, Bool.false_and]

theorem isTold_of_not_isBlankText
    (hSome : isBlankText s = false) :
    IsTold (trim s) where
  ne_empty := by
    intro hEmpty
    rw [← isBlankText_trim, hEmpty] at hSome
    exact absurd hSome (by decide)
  isTrimmed := isTrimmed_trim s

theorem isTold_of_nonBlank
    (hText : nonBlank s = some t) :
    IsTold t := by
  unfold nonBlank at hText
  split at hText
  · cases hText
  · rename_i hSome
    cases hText
    exact isTold_of_not_isBlankText (Bool.eq_false_iff.mpr hSome)

theorem nonBlank_of_isTold
    (hTold : IsTold s) :
    nonBlank s = some s := by
  unfold nonBlank
  rw [hTold.isBlankText_eq_false,
    trim_of_isTrimmed hTold.isTrimmed]
  rfl

------------------------------------------------------------
-- Small Letters
------------------------------------------------------------

theorem toLower_of_not_isUpper
    (hc : isUpper c = false) :
    c.toLower = c := by
  have hRange : ¬ (c.val ≥ 'A'.val ∧ c.val ≤ 'Z'.val) := by
    rintro ⟨hFrom, hTo⟩
    simp only [isUpper, Bool.and_eq_false_iff,
      decide_eq_false_iff_not, Char.le_def] at hc
    exact hc.elim (fun h => h hFrom) fun h => h hTo
  exact dif_neg hRange

theorem isUpper_toLower (c : Char) :
    isUpper c.toLower = false := by
  cases hc : isUpper c with
  | true =>
      exact forall_isAlphanumeric
        (p := fun c => isUpper c.toLower = false)
        (by decide) (isAlphanumeric_of_isUpper hc)
  | false => rw [toLower_of_not_isUpper hc, hc]

/- A letter is blank in neither case. -/
theorem isBlank_toLower (c : Char) :
    isBlank c.toLower = isBlank c := by
  cases hc : isUpper c with
  | true =>
      exact forall_isAlphanumeric
        (p := fun c => isBlank c.toLower = isBlank c)
        (by decide) (isAlphanumeric_of_isUpper hc)
  | false => rw [toLower_of_not_isUpper hc]

theorem isBlankText_lower (s : String) :
    isBlankText (lower s) = isBlankText s := by
  have hSame : isBlank ∘ Char.toLower = isBlank :=
    funext isBlank_toLower
  unfold isBlankText lower
  rw [String.toList_ofList, List.all_map, hSame]

theorem IsTrimmed.lower
    (hTrimmed : IsTrimmed s) :
    IsTrimmed (lower s) where
  front := by
    intro c hHead
    unfold Text.lower at hHead
    rw [String.toList_ofList, List.head?_map,
      Option.map_eq_some_iff] at hHead
    rcases hHead with ⟨d, hHead, rfl⟩
    rw [isBlank_toLower]
    exact hTrimmed.front d hHead
  back := by
    intro c hLast
    unfold Text.lower at hLast
    rw [String.toList_ofList, List.getLast?_map,
      Option.map_eq_some_iff] at hLast
    rcases hLast with ⟨d, hLast, rfl⟩
    rw [isBlank_toLower]
    exact hTrimmed.back d hLast

theorem lower_of_not_isUpper
    (hSmall : ∀ c ∈ s.toList, isUpper c = false) :
    lower s = s := by
  have hSame : s.toList.map Char.toLower = s.toList.map id :=
    List.map_congr_left fun c hc =>
      toLower_of_not_isUpper (hSmall c hc)
  unfold lower
  rw [hSame, List.map_id, String.ofList_toList]

end Text

end Clickstream
