import Mathlib.Data.List.TakeWhile
import Mathlib.Order.Monotone.Basic
import Clickstream.Text.Words
import Clickstream.Proofs.Text.Alphanumeric
import Clickstream.Proofs.Text.Pattern

/-
  Where the words of a name begin and end. All letters and
  digits of the name are kept, in their order. A word ends
  where something else follows, and where a capital follows a
  small letter or a digit; nowhere else.

  Key definitions:
    * `Text.HasAt`, `Text.EndsAt`
    * `Text.rank`, `Text.partAt`
    * `Text.wordAt`: the word in which a place falls

  Key theorems:
    * `Text.rawWords_cons_of_endsAt`,
      `Text.exists_rawWords_cons`
    * `Text.flatten_words`
    * `Text.wordAt_succ`
    * `Text.breaks_words`
-/

namespace Clickstream

namespace Text

------------------------------------------------------------
-- Places
------------------------------------------------------------

/- Whether a character of a class stands at a place. -/
def HasAt
    (cs : List Char)
    (place : Nat)
    (isIn : Char → Bool) : Prop :=
  cs[place]?.any isIn = true

instance
    (cs : List Char)
    (place : Nat)
    (isIn : Char → Bool) :
    Decidable (HasAt cs place isIn) := by
  unfold HasAt
  infer_instance

/-
  Whether a word ends at a place: a letter or digit stands
  there, and if another one follows it is a capital after a
  small letter or a digit.
-/
def EndsAt (cs : List Char) (place : Nat) : Prop :=
  HasAt cs place isAlphanumeric ∧
    (HasAt cs (place + 1) isAlphanumeric →
      HasAt cs place isSmall ∧ HasAt cs (place + 1) isUpper)

instance (cs : List Char) (place : Nat) :
    Decidable (EndsAt cs place) := by
  unfold EndsAt
  infer_instance

/- How many letters and digits stand before a place. -/
def rank (cs : List Char) (place : Nat) : Nat :=
  (cs.take place).countP isAlphanumeric

/- In which of several parts a place of them all falls. -/
def partAt
    {α : Type}
    (parts : List (List α))
    (place : Nat) : Nat :=
  match parts with
  | [] => 0
  | part :: others =>
      if place < part.length then 0
      else partAt others (place - part.length) + 1

/-
  The number of the word in which a letter or digit of a name
  falls: as many letters and digits come before it in the name
  as in all words together.
-/
def wordAt (name : String) (place : Nat) : Nat :=
  partAt (words name) (rank name.toList place)

variable {isIn : Char → Bool}
variable {c : Char}
variable {cs rest : List Char}
variable {place : Nat}

@[simp] theorem hasAt_nil : ¬ HasAt [] place isIn :=
  Bool.false_ne_true

@[simp] theorem hasAt_cons_zero :
    HasAt (c :: rest) 0 isIn ↔ isIn c = true :=
  Iff.rfl

@[simp] theorem hasAt_cons_succ :
    HasAt (c :: rest) (place + 1) isIn ↔
      HasAt rest place isIn :=
  Iff.rfl

theorem hasAt_isAlphanumeric_iff :
    HasAt cs place isAlphanumeric ↔
      HasAt cs place isUpper ∨ HasAt cs place isSmall := by
  unfold HasAt
  cases cs[place]? with
  | none => simp
  | some c => exact isAlphanumeric_iff

theorem not_hasAt_isUpper
    (hSmall : HasAt cs place isSmall) :
    ¬ HasAt cs place isUpper := by
  unfold HasAt at *
  cases hChar : cs[place]? with
  | none => simp
  | some c =>
      rw [hChar] at hSmall
      simpa using isUpper_of_isSmall hSmall

------------------------------------------------------------
-- One Character More
------------------------------------------------------------

theorem takeWhile_of_not_hasAt
    (hHead : ¬ HasAt cs 0 isIn) :
    cs.takeWhile isIn = [] ∧ cs.dropWhile isIn = cs := by
  cases cs with
  | nil => exact ⟨rfl, rfl⟩
  | cons c rest =>
      exact ⟨List.takeWhile_cons_of_neg hHead,
        List.dropWhile_cons_of_neg hHead⟩

/- What is no letter or digit belongs to no word. -/
theorem rawWords_cons_of_not
    (hc : ¬ isAlphanumeric c = true) :
    rawWords (c :: rest) = rawWords rest := by
  rw [isAlphanumeric_iff, not_or] at hc
  rw [rawWords, if_neg hc.1, if_neg hc.2]

/- A character at which a word ends is a word by itself. -/
theorem rawWords_cons_of_endsAt
    (hEnds : EndsAt (c :: rest) 0) :
    rawWords (c :: rest) = [c] :: rawWords rest := by
  rcases hEnds with ⟨hc, hNext⟩
  simp only [hasAt_cons_zero, hasAt_cons_succ] at hc hNext
  have hSmall : ¬ HasAt rest 0 isSmall := by
    intro hSmall
    exact not_hasAt_isUpper hSmall
      (hNext (hasAt_isAlphanumeric_iff.mpr
        (Or.inr hSmall))).2
  rcases takeWhile_of_not_hasAt hSmall with ⟨hTake, hDrop⟩
  by_cases hUpper : isUpper c = true
  · have hCapital : ¬ HasAt rest 0 isUpper := by
      intro hCapital
      have hBoth :=
        hNext (hasAt_isAlphanumeric_iff.mpr
          (Or.inl hCapital))
      rw [isUpper_of_isSmall hBoth.1] at hUpper
      cases hUpper
    rcases takeWhile_of_not_hasAt hCapital with
      ⟨hNone, hAll⟩
    rw [rawWords, if_pos hUpper]
    simp only [hNone, hAll, hTake, hDrop, List.append_nil]
  · have hc := (isAlphanumeric_iff.mp hc).resolve_left hUpper
    rw [rawWords, if_neg hUpper, if_pos hc, hTake, hDrop]

/- Any other letter or digit stands before a longer word. -/
theorem exists_rawWords_cons
    (hc : isAlphanumeric c = true)
    (hGoesOn : ¬ EndsAt (c :: rest) 0) :
    ∃ word others,
      rawWords rest = word :: others ∧
        rawWords (c :: rest) = (c :: word) :: others := by
  cases rest with
  | nil =>
      refine absurd ⟨hc, fun hNext => ?_⟩ hGoesOn
      rw [hasAt_cons_succ] at hNext
      exact absurd hNext hasAt_nil
  | cons d more =>
      have hNext :
          isAlphanumeric d = true ∧
            ¬ (isSmall c = true ∧ isUpper d = true) := by
        by_contra hNot
        refine hGoesOn ⟨hc, fun hd => ?_⟩
        by_contra hBreak
        exact hNot ⟨hd, hBreak⟩
      rcases hNext with ⟨hd, hBreak⟩
      by_cases hCapital : isUpper d = true
      · have hUpper : isUpper c = true :=
          (isAlphanumeric_iff.mp hc).resolve_right
            fun hSmall => hBreak ⟨hSmall, hCapital⟩
        rw [rawWords, if_pos hCapital, rawWords,
          if_pos hUpper, List.takeWhile_cons_of_pos hCapital,
          List.dropWhile_cons_of_pos hCapital]
        exact ⟨_, _, rfl, rfl⟩
      · have hSmall :=
          (isAlphanumeric_iff.mp hd).resolve_left hCapital
        rw [rawWords, if_neg hCapital, if_pos hSmall, rawWords]
        by_cases hUpper : isUpper c = true
        · rw [if_pos hUpper,
            List.takeWhile_cons_of_neg hCapital,
            List.dropWhile_cons_of_neg hCapital,
            List.takeWhile_cons_of_pos hSmall,
            List.dropWhile_cons_of_pos hSmall]
          exact ⟨_, _, rfl, rfl⟩
        · rw [if_neg hUpper,
            if_pos ((isAlphanumeric_iff.mp hc).resolve_left
              hUpper),
            List.takeWhile_cons_of_pos hSmall,
            List.dropWhile_cons_of_pos hSmall]
          exact ⟨_, _, rfl, rfl⟩

------------------------------------------------------------
-- Completeness
------------------------------------------------------------

/-
  The words hold the letters and digits of the text. The
  induction goes from character to character, as the three
  equations above do.
-/
theorem flatten_rawWords (cs : List Char) :
    (rawWords cs).flatten = cs.filter isAlphanumeric := by
  induction cs with
  | nil => simp [rawWords]
  | cons c rest ih =>
      by_cases hc : isAlphanumeric c = true
      · rw [List.filter_cons_of_pos hc, ← ih]
        by_cases hEnds : EndsAt (c :: rest) 0
        · rw [rawWords_cons_of_endsAt hEnds]
          rfl
        · rcases exists_rawWords_cons hc hEnds with
            ⟨word, others, hRest, hAll⟩
          rw [hRest, hAll]
          rfl
      · rw [List.filter_cons_of_neg hc, ← ih,
          rawWords_cons_of_not hc]

theorem flatten_words (name : String) :
    (words name).flatten =
      (name.toList.filter isAlphanumeric).map
        Char.toLower := by
  rw [words, ← List.map_flatten, flatten_rawWords]

------------------------------------------------------------
-- Parts
------------------------------------------------------------

variable {α β : Type}
variable {part : List α}
variable {parts : List (List α)}

/- Where no part is empty the first place is in the first. -/
theorem partAt_zero
    (hSome : [] ∉ parts) :
    partAt parts 0 = 0 := by
  cases parts with
  | nil => rfl
  | cons part others =>
      have hPart : part ≠ [] := by
        rintro rfl
        exact hSome List.mem_cons_self
      rw [partAt, if_pos (List.length_pos_iff.mpr hPart)]

/- One place more in the first part moves nothing. -/
theorem partAt_longer (x : α) (place : Nat) :
    partAt ((x :: part) :: parts) (place + 1) =
      partAt (part :: parts) place := by
  simp only [partAt, List.length_cons,
    Nat.add_lt_add_iff_right, Nat.add_sub_add_right]

theorem partAt_singleton (x : α) (place : Nat) :
    partAt ([x] :: parts) (place + 1) =
      partAt parts place + 1 := by
  simp [partAt]

/- Only the lengths of parts count. -/
theorem partAt_map (f : α → β) (place : Nat) :
    partAt (parts.map (·.map f)) place =
      partAt parts place := by
  induction parts generalizing place with
  | nil => rfl
  | cons part others ih =>
      simp only [List.map_cons, partAt, List.length_map, ih]

/- What stands at a place is found in the part told. -/
theorem exists_part_of_getElem?
    {x : α}
    (hx : parts.flatten[place]? = some x) :
    ∃ part, parts[partAt parts place]? = some part ∧
      x ∈ part := by
  induction parts generalizing place with
  | nil => cases hx
  | cons part others ih =>
      rw [List.flatten_cons] at hx
      by_cases hPlace : place < part.length
      · rw [List.getElem?_append_left hPlace] at hx
        rw [partAt, if_pos hPlace]
        exact ⟨part, rfl, List.mem_of_getElem? hx⟩
      · rw [List.getElem?_append_right
          (Nat.le_of_not_lt hPlace)] at hx
        rw [partAt, if_neg hPlace, List.getElem?_cons_succ]
        exact ih hx

------------------------------------------------------------
-- Ranks
------------------------------------------------------------

@[simp] theorem rank_zero : rank cs 0 = 0 := rfl

theorem rank_cons_of_pos
    (hc : isAlphanumeric c = true) :
    rank (c :: rest) (place + 1) = rank rest place + 1 := by
  rw [rank, List.take_succ_cons, List.countP_cons_of_pos hc]
  rfl

theorem rank_cons_of_neg
    (hc : ¬ isAlphanumeric c = true) :
    rank (c :: rest) (place + 1) = rank rest place := by
  rw [rank, List.take_succ_cons, List.countP_cons_of_neg hc]
  rfl

/- A letter or digit is found again by its rank. -/
theorem getElem?_filter_rank
    (hChar : cs[place]? = some c)
    (hc : isAlphanumeric c = true) :
    (cs.filter isAlphanumeric)[rank cs place]? = some c := by
  induction cs generalizing place with
  | nil => cases hChar
  | cons d rest ih =>
      cases place with
      | zero =>
          have hSame : d = c := by simpa using hChar
          subst hSame
          rw [List.filter_cons_of_pos hc]
          rfl
      | succ place =>
          rw [List.getElem?_cons_succ] at hChar
          by_cases hd : isAlphanumeric d = true
          · rw [rank_cons_of_pos hd,
              List.filter_cons_of_pos hd,
              List.getElem?_cons_succ]
            exact ih hChar
          · rw [rank_cons_of_neg hd,
              List.filter_cons_of_neg hd]
            exact ih hChar

------------------------------------------------------------
-- Words of Places
------------------------------------------------------------

/- The word of a place, told from the words as written. -/
def rawWordAt (cs : List Char) (place : Nat) : Nat :=
  partAt (rawWords cs) (rank cs place)

theorem wordAt_eq (name : String) (place : Nat) :
    wordAt name place = rawWordAt name.toList place :=
  partAt_map _ _

theorem rawWordAt_zero : rawWordAt cs 0 = 0 := by
  rw [rawWordAt, rank_zero]
  exact partAt_zero fun hEmpty =>
    ne_nil_of_mem_rawWords hEmpty rfl

/- A character in front counts if a word ends at it. -/
theorem rawWordAt_cons_succ (place : Nat) :
    rawWordAt (c :: rest) (place + 1) =
      rawWordAt rest place +
        if EndsAt (c :: rest) 0 then 1 else 0 := by
  unfold rawWordAt
  by_cases hc : isAlphanumeric c = true
  · rw [rank_cons_of_pos hc]
    by_cases hEnds : EndsAt (c :: rest) 0
    · rw [if_pos hEnds, rawWords_cons_of_endsAt hEnds,
        partAt_singleton]
    · rcases exists_rawWords_cons hc hEnds with
        ⟨word, others, hRest, hAll⟩
      rw [if_neg hEnds, hRest, hAll, partAt_longer,
        Nat.add_zero]
  · have hEnds : ¬ EndsAt (c :: rest) 0 := fun hEnds =>
      hc hEnds.1
    rw [if_neg hEnds, rawWords_cons_of_not hc,
      rank_cons_of_neg hc, Nat.add_zero]

/-
  From one place to the next the number of the word grows by
  one if a word ends there, and stays as it is otherwise.
-/
theorem rawWordAt_succ (cs : List Char) (place : Nat) :
    rawWordAt cs (place + 1) =
      rawWordAt cs place +
        if EndsAt cs place then 1 else 0 := by
  induction cs generalizing place with
  | nil =>
      have hEnds : ¬ EndsAt [] place := fun hEnds =>
        hasAt_nil hEnds.1
      rw [if_neg hEnds]
      simp [rawWordAt, rawWords, partAt]
  | cons c rest ih =>
      rw [rawWordAt_cons_succ]
      cases place with
      | zero => rw [rawWordAt_zero, rawWordAt_zero]
      | succ place =>
          have hSame :
              EndsAt (c :: rest) (place + 1) ↔
                EndsAt rest place :=
            Iff.rfl
          rw [rawWordAt_cons_succ, ih]
          simp only [hSame]
          omega

variable (name : String)

theorem wordAt_succ (place : Nat) :
    wordAt name (place + 1) =
      wordAt name place +
        if EndsAt name.toList place then 1 else 0 := by
  rw [wordAt_eq, wordAt_eq, rawWordAt_succ]

theorem monotone_wordAt : Monotone (wordAt name) := by
  refine monotone_nat_of_le_succ fun place => ?_
  rw [wordAt_succ]
  exact Nat.le_add_right _ _

/- A letter or digit is found in the word of its place. -/
theorem exists_word_of_getElem?
    (hChar : name.toList[place]? = some c)
    (hc : isAlphanumeric c = true) :
    ∃ word, (words name)[wordAt name place]? = some word ∧
      c.toLower ∈ word := by
  apply exists_part_of_getElem?
  rw [flatten_words, List.getElem?_map,
    getElem?_filter_rank hChar hc, Option.map_some]

/-
  Neighbours fall into two words where a word ends at the
  first of them.
-/
theorem wordAt_ne_succ_iff :
    wordAt name place ≠ wordAt name (place + 1) ↔
      EndsAt name.toList place := by
  rw [wordAt_succ]
  by_cases hEnds : EndsAt name.toList place
  · simp [hEnds]
  · simp [hEnds]

/-
  Between a letter or digit and anything else that comes later
  a word ends.
-/
theorem exists_endsAt
    {first gap : Nat}
    (hFirst : HasAt cs first isAlphanumeric)
    (hGap : ¬ HasAt cs gap isAlphanumeric)
    (hOrder : first < gap) :
    ∃ place, first ≤ place ∧ place < gap ∧
      EndsAt cs place := by
  induction gap, hOrder using Nat.le_induction with
  | base =>
      exact ⟨first, Nat.le_refl _, Nat.lt_succ_self _, hFirst,
        fun hNext => absurd hNext hGap⟩
  | succ gap hOrder ih =>
      by_cases hLast : HasAt cs gap isAlphanumeric
      · exact ⟨gap, Nat.le_of_succ_le hOrder,
          Nat.lt_succ_self _, hLast,
          fun hNext => absurd hNext hGap⟩
      · rcases ih hLast with ⟨place, hFrom, hTo, hEnds⟩
        exact ⟨place, hFrom, Nat.lt_succ_of_lt hTo, hEnds⟩

/- What is separated falls into different words. -/
theorem wordAt_lt_of_gap
    {first gap last : Nat}
    (hFirst : HasAt name.toList first isAlphanumeric)
    (hGap : ¬ HasAt name.toList gap isAlphanumeric)
    (hBefore : first < gap)
    (hBehind : gap < last) :
    wordAt name first < wordAt name last := by
  rcases exists_endsAt hFirst hGap hBefore with
    ⟨place, hFrom, hTo, hEnds⟩
  calc
    wordAt name first ≤ wordAt name place :=
      monotone_wordAt name hFrom
    _ < wordAt name (place + 1) := by
      rw [wordAt_succ, if_pos hEnds]
      exact Nat.lt_succ_self _
    _ ≤ wordAt name last :=
      monotone_wordAt name (Nat.lt_trans hTo hBehind)

/-
  The words of a name are what the pattern of words finds, in
  small letters. None is empty, together they hold the letters
  and digits of the name, and each of these is found in the
  word of its place. Of two that are neighbours the second
  begins a new word just if it is a capital and the first is
  not; two with anything else between them never fall into one
  word.
-/
theorem breaks_words :
    words name =
        (wordPattern.finds name.toList).map
          (·.map Char.toLower) ∧
      [] ∉ words name ∧
      (words name).flatten =
        (name.toList.filter isAlphanumeric).map
          Char.toLower ∧
      (∀ place c,
        name.toList[place]? = some c →
          isAlphanumeric c = true →
            ∃ word,
              (words name)[wordAt name place]? = some word ∧
                c.toLower ∈ word) ∧
      (∀ place,
        HasAt name.toList place isAlphanumeric →
          HasAt name.toList (place + 1) isAlphanumeric →
            (wordAt name place ≠ wordAt name (place + 1) ↔
              HasAt name.toList place isSmall ∧
                HasAt name.toList (place + 1) isUpper)) ∧
      ∀ first gap last,
        first < gap →
          gap < last →
            HasAt name.toList first isAlphanumeric →
              ¬ HasAt name.toList gap isAlphanumeric →
                HasAt name.toList last isAlphanumeric →
                  wordAt name first ≠ wordAt name last := by
  refine ⟨?_, ?_, flatten_words name, ?_, ?_, ?_⟩
  · rw [finds_wordPattern, words]
  · exact fun hEmpty => ne_nil_of_mem_words hEmpty rfl
  · exact fun _ _ => exists_word_of_getElem? name
  · intro place hThis hNext
    rw [wordAt_ne_succ_iff]
    exact ⟨fun hEnds => hEnds.2 hNext,
      fun hBreak => ⟨hThis, fun _ => hBreak⟩⟩
  · intro first gap last hBefore hBehind hFirst hGap _
    exact Nat.ne_of_lt
      (wordAt_lt_of_gap name hFirst hGap hBefore hBehind)

/- A name with capitals in a row, digits and an accent. -/
def mixedName : String := "parseHTTPUrl2Go é9"

/-
  Capitals in a row belong to the word that they begin, and
  letters of other alphabets to none.
-/
theorem breaks_words_mixedName :
    HasAt mixedName.toList 8 isAlphanumeric ∧
      HasAt mixedName.toList 9 isAlphanumeric ∧
      wordAt mixedName 8 = wordAt mixedName 9 ∧
      HasAt mixedName.toList 12 isAlphanumeric ∧
      HasAt mixedName.toList 13 isAlphanumeric ∧
      wordAt mixedName 12 ≠ wordAt mixedName 13 ∧
      HasAt mixedName.toList 14 isAlphanumeric ∧
      ¬ HasAt mixedName.toList 16 isAlphanumeric ∧
      HasAt mixedName.toList 17 isAlphanumeric ∧
      wordAt mixedName 14 ≠ wordAt mixedName 17 ∧
      mixedName.toList[9]? = some 'U' ∧
      isAlphanumeric 'U' = true ∧
      ∃ word,
        (words mixedName)[wordAt mixedName 9]? = some word ∧
          'u' ∈ word := by
  rcases breaks_words mixedName with
    ⟨_, _, _, hFound, hNeighbours, hApart⟩
  have h8 : HasAt mixedName.toList 8 isAlphanumeric := by
    decide +kernel
  have h9 : HasAt mixedName.toList 9 isAlphanumeric := by
    decide +kernel
  have h12 : HasAt mixedName.toList 12 isAlphanumeric := by
    decide +kernel
  have h13 : HasAt mixedName.toList 13 isAlphanumeric := by
    decide +kernel
  have h14 : HasAt mixedName.toList 14 isAlphanumeric := by
    decide +kernel
  have h16 : ¬ HasAt mixedName.toList 16 isAlphanumeric := by
    decide +kernel
  have h17 : HasAt mixedName.toList 17 isAlphanumeric := by
    decide +kernel
  have hCapital : mixedName.toList[9]? = some 'U' := by
    decide +kernel
  refine ⟨h8, h9, ?_, h12, h13, ?_, h14, h16, h17, ?_,
    hCapital, by decide, hFound 9 'U' hCapital (by decide)⟩
  · by_contra hDifferent
    have hBreak := (hNeighbours 8 h8 h9).mp hDifferent
    exact absurd hBreak.1 (by decide +kernel)
  · exact (hNeighbours 12 h12 h13).mpr (by decide +kernel)
  · exact hApart 14 16 17 (by decide) (by decide) h14 h16 h17

end Text

end Clickstream
