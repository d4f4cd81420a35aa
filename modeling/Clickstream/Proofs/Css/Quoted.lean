import Clickstream.Css.Quoted
import Clickstream.Proofs.Text.Alphanumeric

/-
  Strings of style sheets. What is written between the double
  quotes never has a quote that ends the string too early, and
  it is read as the text it was written for just if that text
  has no end of line. Whatever else is read as this text is
  longer than what is written.

  Key definitions:
    * `isNewline`
    * `closeQuoted`: a string up to its closing quote
    * `preprocess`: a style sheet before it is read

  Key theorems:
    * `closeQuoted_escapeQuotedChars`
    * `readQuoted_escapeQuoted_iff`
    * `eq_or_length_lt_of_readQuoted`
    * `preprocess_eq_self_iff`
-/

namespace Clickstream

namespace Css

open Text

------------------------------------------------------------
-- Ends of Lines and Strings
------------------------------------------------------------

/- The characters that end a line of a style sheet. -/
def isNewline (c : Char) : Bool :=
  c == '\n' || c == '\r' || c == '\x0c'

/-
  The text up to the first double quote that no backslash
  stands before, and what follows that quote.
-/
def closeQuoted :
    List Char → Option (List Char × List Char)
  | [] => none
  | '"' :: rest => some ([], rest)
  | '\\' :: c :: rest =>
      (closeQuoted rest).map fun parts =>
        ('\\' :: c :: parts.1, parts.2)
  | c :: rest =>
      (closeQuoted rest).map fun parts =>
        (c :: parts.1, parts.2)

variable {c d : Char}
variable {cs rest tail text after : List Char}
variable {fuel : Nat}

theorem isNewline_iff :
    isNewline c = true ↔ c = '\n' ∨ c = '\r' ∨ c = '\x0c' := by
  simp [isNewline, or_assoc]

/- How one character is written, and the rest behind it. -/
theorem escapeQuotedChars_cons (c : Char) (cs : List Char) :
    escapeQuotedChars (c :: cs) =
      escapeQuotedChars [c] ++ escapeQuotedChars cs := by
  simp [escapeQuotedChars]

theorem escapeQuotedChars_of_mark
    (hMark : c = '\\' ∨ c = '"') :
    escapeQuotedChars [c] = ['\\', c] := by
  simp [escapeQuotedChars, hMark]

theorem escapeQuotedChars_of_not_mark
    (hMark : ¬ (c = '\\' ∨ c = '"')) :
    escapeQuotedChars [c] = [c] := by
  simp [escapeQuotedChars, hMark]

theorem length_escapeQuotedChars_le (c : Char) :
    (escapeQuotedChars [c]).length ≤ 2 := by
  by_cases hMark : c = '\\' ∨ c = '"'
  · rw [escapeQuotedChars_of_mark hMark]
    rfl
  · rw [escapeQuotedChars_of_not_mark hMark,
      List.length_singleton]
    omega

/- No character is brought in but backslashes. -/
theorem mem_escapeQuotedChars
    (hc : c ∈ escapeQuotedChars cs) :
    c ∈ cs ∨ c = '\\' := by
  rcases List.mem_flatMap.mp hc with ⟨d, hd, hc⟩
  split at hc
  · rcases List.mem_cons.mp hc with rfl | hc
    · exact Or.inr rfl
    · rw [List.mem_singleton] at hc
      exact Or.inl (hc ▸ hd)
  · rw [List.mem_singleton] at hc
    exact Or.inl (hc ▸ hd)

/- None is left out. -/
theorem mem_escapeQuotedChars_of_mem
    (hc : c ∈ cs) :
    c ∈ escapeQuotedChars cs := by
  refine List.mem_flatMap.mpr ⟨c, hc, ?_⟩
  split <;> simp

/-
  What is written closes where its quote stands and nowhere
  before that, whatever text it is written for.
-/
theorem closeQuoted_escapeQuotedChars
    (cs after : List Char) :
    closeQuoted (escapeQuotedChars cs ++ '"' :: after) =
      some (escapeQuotedChars cs, after) := by
  induction cs with
  | nil => rfl
  | cons c cs ih =>
      rw [escapeQuotedChars_cons]
      by_cases hMark : c = '\\' ∨ c = '"'
      · rw [escapeQuotedChars_of_mark hMark]
        simp [closeQuoted, ih]
      · rw [escapeQuotedChars_of_not_mark hMark]
        rw [not_or] at hMark
        simp [closeQuoted, ih, hMark]

/- A closed string is followed by its quote. -/
theorem eq_append_of_closeQuoted
    (hClose : closeQuoted cs = some (text, after)) :
    cs = text ++ '"' :: after := by
  induction cs using closeQuoted.induct
      generalizing text with
  | case1 => cases hClose
  | case2 rest =>
      cases hClose
      rfl
  | case3 c rest ih =>
      rw [closeQuoted, Option.map_eq_some_iff] at hClose
      rcases hClose with ⟨parts, hParts, hSame⟩
      cases hSame
      rw [ih hParts]
      rfl
  | case4 c rest hQuote hSlash ih =>
      rw [closeQuoted.eq_4 _ _ hQuote hSlash,
        Option.map_eq_some_iff] at hClose
      rcases hClose with ⟨parts, hParts, hSame⟩
      cases hSame
      rw [ih hParts]
      rfl

------------------------------------------------------------
-- Reading What Is Written
------------------------------------------------------------

/- A raw end of line belongs to no string. -/
theorem readQuotedFrom_of_isNewline
    (hNewline : isNewline c = true) :
    readQuotedFrom fuel (c :: rest) = none := by
  cases fuel with
  | zero => rfl
  | succ fuel =>
      rw [isNewline_iff] at hNewline
      unfold readQuotedFrom
      exact if_pos (Or.inr hNewline)

/- Backslash and mark are read as the mark. -/
theorem readQuotedFrom_of_mark
    (hMark : d = '\\' ∨ d = '"') :
    readQuotedFrom (fuel + 1) ('\\' :: d :: rest) =
      (readQuotedFrom fuel rest).map (d :: ·) := by
  rcases hMark with rfl | rfl <;> rfl

/- All else is read as itself. -/
theorem readQuotedFrom_of_plain
    (hNewline : isNewline c = false)
    (hMark : ¬ (c = '\\' ∨ c = '"')) :
    readQuotedFrom (fuel + 1) (c :: rest) =
      (readQuotedFrom fuel rest).map (c :: ·) := by
  rw [← Bool.not_eq_true, isNewline_iff] at hNewline
  rw [not_or] at hMark
  exact (if_neg (not_or.mpr ⟨hMark.2, hNewline⟩)).trans
    (if_neg hMark.1)

/-
  What is written for a text is read as the text, unless the
  text has an end of line.
-/
theorem readQuotedFrom_escapeQuotedChars
    (hFuel : (escapeQuotedChars cs).length ≤ fuel) :
    readQuotedFrom fuel (escapeQuotedChars cs) =
      if cs.any isNewline then none else some cs := by
  induction cs generalizing fuel with
  | nil =>
      cases fuel <;> rfl
  | cons c cs ih =>
      rw [escapeQuotedChars_cons] at hFuel ⊢
      rw [List.length_append] at hFuel
      rw [List.any_cons]
      by_cases hMark : c = '\\' ∨ c = '"'
      · have hNewline : isNewline c = false := by
          rcases hMark with rfl | rfl <;> rfl
        rw [escapeQuotedChars_of_mark hMark] at hFuel ⊢
        rw [List.length_cons, List.length_singleton] at hFuel
        obtain ⟨fuel, rfl⟩ :=
          Nat.exists_eq_succ_of_ne_zero (n := fuel) (by omega)
        have hRest :
            readQuotedFrom fuel (escapeQuotedChars cs) =
              if cs.any isNewline then none else some cs :=
          ih (by omega)
        change readQuotedFrom (fuel + 1)
          ('\\' :: c :: escapeQuotedChars cs) = _
        rw [readQuotedFrom_of_mark hMark, hRest, hNewline,
          Bool.false_or]
        split <;> rfl
      · rw [escapeQuotedChars_of_not_mark hMark] at hFuel ⊢
        cases hNewline : isNewline c with
        | true =>
            rw [Bool.true_or, if_pos rfl]
            exact readQuotedFrom_of_isNewline hNewline
        | false =>
            rw [List.length_singleton] at hFuel
            obtain ⟨fuel, rfl⟩ :=
              Nat.exists_eq_succ_of_ne_zero (n := fuel)
                (by omega)
            have hRest :
                readQuotedFrom fuel (escapeQuotedChars cs) =
                  if cs.any isNewline then none else some cs :=
              ih (by omega)
            change readQuotedFrom (fuel + 1)
              (c :: escapeQuotedChars cs) = _
            rw [readQuotedFrom_of_plain hNewline hMark, hRest,
              Bool.false_or]
            split <;> rfl

theorem readQuoted_escapeQuotedChars_iff :
    readQuoted (escapeQuotedChars cs) = some cs ↔
      ∀ c ∈ cs, isNewline c = false := by
  unfold readQuoted
  rw [readQuotedFrom_escapeQuotedChars (Nat.le_refl _)]
  simp

/- The same for texts. -/
theorem readQuoted_escapeQuoted_iff (value : String) :
    readQuoted (escapeQuoted value).toList =
        some value.toList ↔
      Avoids isNewline value := by
  unfold escapeQuoted
  rw [String.toList_ofList, readQuoted_escapeQuotedChars_iff]
  rfl

------------------------------------------------------------
-- Shortest Writings
------------------------------------------------------------

/- The digits of hexadecimal escapes are digits and letters. -/
theorem isAlphanumeric_of_isHexDigit
    (hHex : isHexDigit c = true) :
    isAlphanumeric c = true := by
  simp only [isHexDigit, Bool.or_eq_true, Bool.and_eq_true,
    decide_eq_true_eq] at hHex
  simp only [isAlphanumeric, isLetter, isLower, isUpper,
    isDigit, Bool.or_eq_true, Bool.and_eq_true,
    decide_eq_true_eq]
  rcases hHex with (hDigit | ⟨ha, hf⟩) | ⟨hA, hF⟩
  · exact Or.inr hDigit
  · exact Or.inl (Or.inl ⟨ha, Char.le_trans hf (by decide)⟩)
  · exact Or.inl (Or.inr ⟨hA, Char.le_trans hF (by decide)⟩)

/- No hexadecimal escape of one digit stands for a mark. -/
theorem hexChar_ne_mark
    (hHex : isHexDigit c = true) :
    ¬ (hexChar [c] = '\\' ∨ hexChar [c] = '"') :=
  forall_isAlphanumeric
    (p := fun c =>
      isHexDigit c = true →
        ¬ (hexChar [c] = '\\' ∨ hexChar [c] = '"'))
    (by decide +kernel) (isAlphanumeric_of_isHexDigit hHex) hHex

/-
  A hexadecimal escape takes its digits, and a blank behind
  them if there is one.
-/
theorem exists_of_readEscape_hex
    (hHex : isHexDigit c = true)
    (hEscape : readEscape (c :: rest) = some (d, tail)) :
    ∃ digits behind,
      rest = digits ++ behind ∧
        d = hexChar (c :: digits) ∧
        tail.length ≤ behind.length := by
  have hPrefix :
      (rest.take 5).takeWhile isHexDigit <+: rest :=
    (List.takeWhile_prefix _).trans (List.take_prefix 5 rest)
  refine ⟨_, _, (List.prefix_iff_eq_append.mp hPrefix).symm, ?_⟩
  rw [readEscape, if_pos hHex] at hEscape
  dsimp only at hEscape
  rw [List.length_cons, Nat.add_sub_cancel] at hEscape
  split at hEscape
  · rename_i blank others hBehind
    rw [hBehind]
    split at hEscape
    · cases hEscape
      exact ⟨rfl, Nat.le_succ _⟩
    · rw [hBehind] at hEscape
      cases hEscape
      exact ⟨rfl, Nat.le_refl _⟩
  · cases hEscape
    exact ⟨rfl, Nat.zero_le _⟩

/-
  An escape is a backslash and the character it stands for, or
  it is no shorter than that character where it is written the
  usual way.
-/
theorem eq_or_length_le_of_readEscape
    (hEscape : readEscape rest = some (d, tail)) :
    rest = d :: tail ∨
      (escapeQuotedChars [d]).length + tail.length ≤
        rest.length := by
  cases rest with
  | nil => cases hEscape
  | cons c rest =>
      cases hHex : isHexDigit c with
      | true =>
          rcases exists_of_readEscape_hex hHex hEscape with
            ⟨digits, behind, rfl, rfl, hLength⟩
          right
          rw [List.length_cons, List.length_append]
          cases digits with
          | nil =>
              rw [escapeQuotedChars_of_not_mark
                (hexChar_ne_mark hHex), List.length_singleton]
              omega
          | cons second digits =>
              have hMost := length_escapeQuotedChars_le
                (hexChar (c :: second :: digits))
              rw [List.length_cons]
              omega
      | false =>
          rw [readEscape, if_neg (by simp [hHex])] at hEscape
          split at hEscape
          · cases hEscape
          · cases hEscape
            exact Or.inl rfl

/- An escape is read off the front. -/
theorem length_lt_of_readEscape
    (hEscape : readEscape rest = some (d, tail)) :
    tail.length < rest.length := by
  rcases eq_or_length_le_of_readEscape hEscape with
    rfl | hLength
  · exact Nat.lt_succ_self _
  · by_cases hMark : d = '\\' ∨ d = '"'
    · rw [escapeQuotedChars_of_mark hMark] at hLength
      simp only [List.length_cons, List.length_nil] at hLength
      omega
    · rw [escapeQuotedChars_of_not_mark hMark,
        List.length_singleton] at hLength
      omega

/-
  Of all that is read as a text, what is written for it is the
  shortest, and nothing else is as short. The induction follows
  the reader.
-/
theorem eq_or_length_lt_of_readQuotedFrom
    (hRead : readQuotedFrom fuel cs = some text) :
    cs = escapeQuotedChars text ∨
      (escapeQuotedChars text).length < cs.length := by
  induction fuel, cs using readQuotedFrom.induct
      generalizing text with
  | case1 fuel =>
      rw [readQuotedFrom] at hRead
      cases hRead
      exact Or.inl rfl
  | case2 c rest => cases hRead
  | case3 fuel c rest hEnds =>
      unfold readQuotedFrom at hRead
      rw [if_pos hEnds] at hRead
      cases hRead
  | case4 fuel tail hEnds ih =>
      rw [readQuotedFrom, if_neg hEnds, if_pos rfl] at hRead
      right
      rw [List.length_cons, List.length_cons]
      rcases ih hRead with rfl | hLess
      · omega
      · omega
  | case5 fuel rest d tail hEscape hFeed hEnds ih =>
      rw [readQuotedFrom.eq_4 _ _ _ hFeed, if_neg hEnds,
        if_pos rfl, hEscape] at hRead
      rcases Option.map_eq_some_iff.mp hRead with
        ⟨later, hLater, rfl⟩
      have hLength :
          (escapeQuotedChars later).length ≤ tail.length := by
        rcases ih hLater with rfl | hLess
        · exact Nat.le_refl _
        · exact Nat.le_of_lt hLess
      rw [escapeQuotedChars_cons, List.length_append,
        List.length_cons]
      rcases eq_or_length_le_of_readEscape hEscape with
        rfl | hLong
      · by_cases hMark : d = '\\' ∨ d = '"'
        · rw [escapeQuotedChars_of_mark hMark]
          rcases ih hLater with rfl | hLess
          · exact Or.inl rfl
          · right
            simp only [List.length_cons, List.length_nil]
            omega
        · right
          rw [escapeQuotedChars_of_not_mark hMark]
          simp only [List.length_cons, List.length_nil]
          omega
      · right
        omega
  | case6 fuel rest hEscape hFeed hEnds =>
      rw [readQuotedFrom.eq_4 _ _ _ hFeed, if_neg hEnds,
        if_pos rfl, hEscape] at hRead
      cases hRead
  | case7 fuel c rest hEnds hSlash ih =>
      simp only [not_or] at hEnds
      have hNewline : isNewline c = false := by
        simp [isNewline, hEnds]
      have hMark : ¬ (c = '\\' ∨ c = '"') :=
        not_or.mpr ⟨hSlash, hEnds.1⟩
      rw [readQuotedFrom_of_plain hNewline hMark] at hRead
      rcases Option.map_eq_some_iff.mp hRead with
        ⟨later, hLater, rfl⟩
      rw [escapeQuotedChars_cons,
        escapeQuotedChars_of_not_mark hMark,
        List.singleton_append]
      rcases ih hLater with rfl | hLess
      · exact Or.inl rfl
      · right
        simp only [List.length_cons]
        omega

theorem eq_or_length_lt_of_readQuoted
    (hRead : readQuoted cs = some text) :
    cs = escapeQuotedChars text ∨
      (escapeQuotedChars text).length < cs.length :=
  eq_or_length_lt_of_readQuotedFrom hRead

------------------------------------------------------------
-- Style Sheets before They Are Read
------------------------------------------------------------

/-
  A style sheet is prepared before it is read: all its ends of
  line become line feeds, and a zero character becomes the
  replacement character.
-/
def preprocess : List Char → List Char
  | [] => []
  | '\r' :: '\n' :: rest => '\n' :: preprocess rest
  | c :: rest =>
      (if c = '\r' ∨ c = '\x0c' then '\n'
      else if c = '\x00' then '\ufffd'
      else c) :: preprocess rest

/- The characters that do not stay what they are. -/
def isReplaced (c : Char) : Bool :=
  c == '\r' || c == '\x0c' || c == '\x00'

theorem length_preprocess_le (cs : List Char) :
    (preprocess cs).length ≤ cs.length := by
  induction cs using preprocess.induct with
  | case1 => exact Nat.le_refl _
  | case2 rest ih =>
      simp only [preprocess, List.length_cons]
      omega
  | case3 c rest hFeed ih =>
      rw [preprocess.eq_3 _ _ hFeed, List.length_cons,
        List.length_cons]
      omega

/- A style sheet stays as it is just if no character is replaced. -/
theorem preprocess_eq_self_iff :
    preprocess cs = cs ↔ ∀ c ∈ cs, isReplaced c = false := by
  induction cs using preprocess.induct with
  | case1 => simp [preprocess]
  | case2 rest ih => simp [preprocess, isReplaced]
  | case3 c rest hFeed ih =>
      rw [preprocess.eq_3 _ _ hFeed, List.cons_eq_cons, ih,
        List.forall_mem_cons]
      refine and_congr_left fun _ => ?_
      constructor
      · intro hSame
        split at hSame
        · rename_i hEnds
          rcases hEnds with rfl | rfl <;> cases hSame
        · split at hSame
          · rename_i hZero
            subst hZero
            cases hSame
          · rename_i hEnds hZero
            rw [not_or] at hEnds
            simp [isReplaced, hEnds, hZero]
      · intro hKept
        simp only [isReplaced, Bool.or_eq_false_iff,
          beq_eq_false_iff_ne] at hKept
        simp [hKept]

end Css

end Clickstream
