import Mathlib.Data.List.TakeWhile
import Clickstream.Text.Words
import Clickstream.Proofs.Text.Alphanumeric

/-
  Patterns of characters, and what they find in a text. Often
  a pattern fits in several ways, and some of the ways that
  are tried lead nowhere. The words of a name are what one
  pattern of two alternatives finds: for this one the way that
  is preferred can be told at once.

  Key definitions:
    * `Text.Pattern`, `Text.Pattern.ways`
    * `Text.Pattern.finds`
    * `Text.wordPattern`

  Key theorems:
    * `Text.Pattern.ways_both_many_row`
    * `Text.finds_wordPattern`
-/

namespace Clickstream

namespace Text

------------------------------------------------------------
-- Patterns
------------------------------------------------------------

/-
  One character of a class, any number of them, a pattern
  after another, and two alternatives.
-/
inductive Pattern where
  | one (isIn : Char → Bool)
  | many (isIn : Char → Bool)
  | both (first second : Pattern)
  | either (first second : Pattern)

/-
  How many characters of a class can be taken from the front
  of a text. Taking one more is tried before stopping.
-/
def runs (isIn : Char → Bool) (cs : List Char) : List Nat :=
  match cs with
  | [] => [0]
  | c :: rest =>
      if isIn c then (runs isIn rest).map (· + 1) ++ [0]
      else [0]

namespace Pattern

/-
  The ways in which a pattern fits at the front of a text, as
  the numbers of characters that they take. They stand in the
  order in which they are tried: of two alternatives the first
  comes first, and a way is given up only when everything
  that can follow it has been tried.
-/
def ways (pattern : Pattern) (cs : List Char) : List Nat :=
  match pattern with
  | one isIn => if cs.head?.any isIn then [1] else []
  | many isIn => runs isIn cs
  | both first second =>
      (first.ways cs).flatMap fun n =>
        (second.ways (cs.drop n)).map (n + ·)
  | either first second => first.ways cs ++ second.ways cs

/-
  What a pattern finds in a text from left to right. At each
  place the first way counts, and the search goes on behind
  what it takes. Where there is no way, or the first one takes
  nothing, one character is passed over.
-/
def finds
    (pattern : Pattern)
    (cs : List Char) :
    List (List Char) :=
  match cs with
  | [] => []
  | c :: rest =>
      match (pattern.ways (c :: rest)).head? with
      | some (n + 1) =>
          (c :: rest.take n) :: pattern.finds (rest.drop n)
      | _ => pattern.finds rest
termination_by cs.length
decreasing_by
  · simp only [List.length_drop, List.length_cons]
    omega
  · simp

/- At least one character of a class. -/
def row (isIn : Char → Bool) : Pattern :=
  both (one isIn) (many isIn)

end Pattern

/-
  The pattern of words: small letters and digits, with any
  capitals before them, or else capitals only.
-/
def wordPattern : Pattern :=
  .either (.both (.many isUpper) (.row isSmall))
    (.row isUpper)

------------------------------------------------------------
-- First Ways
------------------------------------------------------------

variable {isIn isNext : Char → Bool}
variable {c : Char}
variable {cs rest : List Char}

/- As many characters are taken as there are. -/
theorem head?_runs :
    (runs isIn cs).head? =
      some (cs.takeWhile isIn).length := by
  induction cs with
  | nil => rfl
  | cons c rest ih =>
      by_cases hc : isIn c = true
      · simp [runs, hc, ih]
      · simp [runs, hc]

namespace Pattern

theorem ways_row_of_isIn
    (hc : isIn c = true) :
    (row isIn).ways (c :: rest) =
      (runs isIn rest).map (1 + ·) := by
  simp [row, ways, hc]

theorem ways_row_of_not
    (hHead : cs.head?.any isIn = false) :
    (row isIn).ways cs = [] := by
  simp [row, ways, hHead]

theorem ways_row_nil : (row isIn).ways [] = [] :=
  ways_row_of_not rfl

theorem head?_ways_row
    (hc : isIn c = true) :
    ((row isIn).ways (c :: rest)).head? =
      some ((rest.takeWhile isIn).length + 1) := by
  rw [ways_row_of_isIn hc, List.head?_map, head?_runs,
    Option.map_some, Nat.add_comm]

/-
  Where no character belongs to both classes, to take fewer
  of the first leads nowhere: what comes next is then one of
  the first class, and none of the second.
-/
theorem ways_both_many_row
    (hApart : ∀ c, isIn c = true → isNext c = false)
    (cs : List Char) :
    (both (many isIn) (row isNext)).ways cs =
      ((row isNext).ways (cs.dropWhile isIn)).map
        ((cs.takeWhile isIn).length + ·) := by
  induction cs with
  | nil => simp [ways, runs]
  | cons c rest ih =>
      by_cases hc : isIn c = true
      · have hStop : (row isNext).ways (c :: rest) = [] :=
          ways_row_of_not (by simp [hApart c hc])
        have hStep :
            (both (many isIn) (row isNext)).ways (c :: rest) =
              ((both (many isIn) (row isNext)).ways
                rest).map (1 + ·) := by
          simp only [ways, runs, if_pos hc,
            List.flatMap_append, List.flatMap_map,
            List.drop_succ_cons, List.flatMap_singleton,
            List.drop_zero, hStop, List.map_nil,
            List.append_nil, List.map_flatMap, List.map_map]
          congr 1
          funext n
          refine List.map_congr_left fun m _ => ?_
          simp only [Function.comp_apply]
          omega
        rw [hStep, ih, List.map_map,
          List.takeWhile_cons_of_pos hc,
          List.dropWhile_cons_of_pos hc]
        refine List.map_congr_left fun m _ => ?_
        simp only [Function.comp_apply, List.length_cons]
        omega
      · simp [ways, runs, hc]

------------------------------------------------------------
-- Search
------------------------------------------------------------

/- The search goes on behind what the first way takes. -/
theorem finds_cons_of_some
    {pattern : Pattern}
    {taken left : List Char}
    (hSplit : taken ++ left = rest)
    (hWay :
      (pattern.ways (c :: rest)).head? =
        some (taken.length + 1)) :
    pattern.finds (c :: rest) =
      (c :: taken) :: pattern.finds left := by
  subst hSplit
  rw [finds, hWay]
  simp only [List.take_left, List.drop_left]

theorem finds_cons_of_none
    {pattern : Pattern}
    (hWay : (pattern.ways (c :: rest)).head? = none) :
    pattern.finds (c :: rest) = pattern.finds rest := by
  rw [finds, hWay]

end Pattern

------------------------------------------------------------
-- Words
------------------------------------------------------------

open Pattern

/-
  The first way of the pattern of words: the first alternative
  as far as it goes, and without small letters the second.
-/
theorem ways_wordPattern :
    wordPattern.ways cs =
      ((row isSmall).ways (cs.dropWhile isUpper)).map
          ((cs.takeWhile isUpper).length + ·) ++
        (row isUpper).ways cs := by
  rw [wordPattern, ways,
    ways_both_many_row fun _ => isSmall_of_isUpper]

/- At a capital the capitals are taken, and what is small. -/
theorem head?_ways_wordPattern_of_isUpper
    (hc : isUpper c = true)
    (rest : List Char) :
    (wordPattern.ways (c :: rest)).head? =
      some ((rest.takeWhile isUpper).length +
        ((rest.dropWhile isUpper).takeWhile isSmall).length +
          1) := by
  rw [ways_wordPattern, List.takeWhile_cons_of_pos hc,
    List.dropWhile_cons_of_pos hc, List.head?_append,
    List.head?_map]
  cases hSmall : rest.dropWhile isUpper with
  | nil => simp [ways_row_nil, head?_ways_row hc]
  | cons d more =>
      by_cases hd : isSmall d = true
      · simp [head?_ways_row hd, hd]
        omega
      · have hStop : (row isSmall).ways (d :: more) = [] :=
          ways_row_of_not (by simpa using hd)
        simp [hStop, head?_ways_row hc, hd]

/- At a small letter or digit such characters are taken. -/
theorem head?_ways_wordPattern_of_isSmall
    (hc : isSmall c = true)
    (rest : List Char) :
    (wordPattern.ways (c :: rest)).head? =
      some ((rest.takeWhile isSmall).length + 1) := by
  have hUpper : ¬ isUpper c = true := by
    simp [isUpper_of_isSmall hc]
  rw [ways_wordPattern, List.takeWhile_cons_of_neg hUpper,
    List.dropWhile_cons_of_neg hUpper, List.head?_append,
    List.head?_map, head?_ways_row hc]
  simp

/- Elsewhere no word begins. -/
theorem head?_ways_wordPattern_of_not
    (hUpper : ¬ isUpper c = true)
    (hSmall : ¬ isSmall c = true) :
    (wordPattern.ways (c :: rest)).head? = none := by
  rw [ways_wordPattern, List.dropWhile_cons_of_neg hUpper,
    ways_row_of_not (by simpa using hSmall),
    ways_row_of_not (by simpa using hUpper)]
  rfl

/-
  The pattern finds the words. The induction follows the three
  ways in which `rawWords` goes on.
-/
theorem finds_wordPattern :
    wordPattern.finds cs = rawWords cs := by
  induction cs using rawWords.induct with
  | case1 => rw [finds, rawWords]
  | case2 c rest hc ih =>
      have hSplit :
          (rest.takeWhile isUpper ++
              (rest.dropWhile isUpper).takeWhile isSmall) ++
            (rest.dropWhile isUpper).dropWhile isSmall =
              rest := by
        simp only [List.append_assoc,
          List.takeWhile_append_dropWhile]
      have hWay := head?_ways_wordPattern_of_isUpper hc rest
      rw [← List.length_append] at hWay
      rw [finds_cons_of_some hSplit hWay, ih, rawWords,
        if_pos hc]
      rfl
  | case3 c rest hUpper hSmall ih =>
      have hSplit :
          rest.takeWhile isSmall ++ rest.dropWhile isSmall =
            rest :=
        List.takeWhile_append_dropWhile
      have hWay :=
        head?_ways_wordPattern_of_isSmall hSmall rest
      rw [finds_cons_of_some hSplit hWay, ih, rawWords,
        if_neg hUpper, if_pos hSmall]
  | case4 c rest hUpper hSmall ih =>
      rw [finds_cons_of_none
        (head?_ways_wordPattern_of_not hUpper hSmall),
        rawWords, if_neg hUpper, if_neg hSmall, ih]

end Text

end Clickstream
