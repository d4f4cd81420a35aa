import Mathlib.Tactic.SplitIfs
import Clickstream.Text.Quoted
import Clickstream.Proofs.Text.Plain

/-
  Literals in a text. A literal can be told from whatever
  follows it, and it never runs over the end of a line.

  Key definitions:
    * `Text.Quoted.IsMark`: the two quotation marks

  Key theorems:
    * `Text.Quoted.readFront_writeChars`
    * `Text.Quoted.readFront_eq_none`
    * `Text.Quoted.write_append_inj`
    * `Text.Quoted.avoids_isBreak_write`
-/

namespace Clickstream

namespace Text

namespace Quoted

------------------------------------------------------------
-- Marks
------------------------------------------------------------

/- The quotation marks that stand around literals. -/
def IsMark (mark : Char) : Prop :=
  mark = '\'' ∨ mark = '"'

variable {mark : Char}

/- A mark is none of the characters that escapes use. -/
theorem IsMark.ne
    (hMark : IsMark mark) :
    mark ≠ '\\' ∧ mark ≠ '\n' ∧ mark ≠ '\r' ∧
      mark ≠ '\t' ∧ mark ≠ 'n' ∧ mark ≠ 'r' ∧
      mark ≠ 't' := by
  rcases hMark with rfl | rfl <;> decide

------------------------------------------------------------
-- Reading Back
------------------------------------------------------------

variable {cs body rest : List Char}

theorem readBody_mark (rest : List Char) :
    readBody mark (mark :: rest) = some ([], rest) := by
  rw [readBody.eq_def]
  exact if_pos rfl

theorem readBody_backslash
    (hMark : '\\' ≠ mark)
    (d : Char)
    (rest : List Char) :
    readBody mark ('\\' :: d :: rest) =
      (unescape mark d).bind fun e =>
        (readBody mark rest).map fun read =>
          (e :: read.1, read.2) := by
  rw [readBody, if_neg hMark, if_pos rfl]
  cases unescape mark d with
  | none => rfl
  | some e => cases readBody mark rest <;> rfl

theorem readBody_plain
    {c : Char}
    (hMark : c ≠ mark)
    (hBackslash : c ≠ '\\')
    (hBreak : ¬ (c = '\n' ∨ c = '\r'))
    (rest : List Char) :
    readBody mark (c :: rest) =
      (readBody mark rest).map fun read =>
        (c :: read.1, read.2) := by
  rw [readBody.eq_def]
  dsimp only
  rw [if_neg hMark, if_neg hBackslash, if_neg hBreak]
  cases readBody mark rest <;> rfl

/-
  Reading a written character takes exactly its escape. The
  cases are those of `escape`.
-/
theorem readBody_escape_append
    (hMark : IsMark mark)
    (c : Char)
    (rest : List Char) :
    readBody mark (escape mark c ++ rest) =
      (readBody mark rest).map
        (fun read => (c :: read.1, read.2)) := by
  rcases hMark.ne with
    ⟨hBackslash, hFeed, hReturn, hTab, hn, hr, ht⟩
  have hEscaped :
      ∀ d : Char, unescape mark d = some c →
        readBody mark ('\\' :: d :: rest) =
          (readBody mark rest).map
            (fun read => (c :: read.1, read.2)) := by
    intro d hd
    rw [readBody_backslash hBackslash.symm, hd,
      Option.bind_some]
  by_cases hc : c = '\\'
  · subst hc
    simpa [escape] using hEscaped '\\' (by simp [unescape])
  by_cases hcMark : c = mark
  · subst hcMark
    simpa [escape, hc] using
      hEscaped c (by simp [unescape, hc])
  by_cases hcFeed : c = '\n'
  · subst hcFeed
    simpa [escape, hcMark] using
      hEscaped 'n' (by simp [unescape, hn.symm])
  by_cases hcReturn : c = '\r'
  · subst hcReturn
    simpa [escape, hcMark] using
      hEscaped 'r' (by simp [unescape, hr.symm])
  by_cases hcTab : c = '\t'
  · subst hcTab
    simpa [escape, hcMark] using
      hEscaped 't' (by simp [unescape, ht.symm])
  -- Every other character stands for itself.
  have hPlain : escape mark c = [c] := by
    simp [escape, hc, hcMark, hcFeed, hcReturn, hcTab]
  rw [hPlain, List.singleton_append]
  exact readBody_plain hcMark hc
    (not_or.mpr ⟨hcFeed, hcReturn⟩) rest

/- Reading a body stops at the mark that closes it. -/
theorem readBody_flatMap_escape
    (hMark : IsMark mark)
    (cs rest : List Char) :
    readBody mark
        (cs.flatMap (escape mark) ++ mark :: rest) =
      some (cs, rest) := by
  induction cs with
  | nil =>
      rw [List.flatMap_nil, List.nil_append, readBody_mark]
  | cons c cs ih =>
      rw [List.flatMap_cons, List.append_assoc,
        readBody_escape_append hMark, ih, Option.map_some]

/- A literal at the front of a text is read back. -/
theorem readFront_writeChars
    (hMark : IsMark mark)
    (cs rest : List Char) :
    readFront mark (writeChars mark cs ++ rest) =
      some (cs, rest) := by
  have hBody := readBody_flatMap_escape hMark cs rest
  simpa [writeChars, readFront] using hBody

/-
  Two texts that start with literals are equal only if the
  literals stand for the same text and the same follows them.
-/
theorem write_append_inj
    (hMark : IsMark mark)
    {a b r s : String}
    (hText : write mark a ++ r = write mark b ++ s) :
    a = b ∧ r = s := by
  have hFront :=
    congrArg (fun t : String => readFront mark t.toList)
      hText
  simp only [write, String.toList_append,
    String.toList_ofList,
    readFront_writeChars hMark] at hFront
  have hPair := Prod.mk.inj (Option.some.inj hFront)
  exact
    ⟨String.toList_inj.mp hPair.1,
      String.toList_inj.mp hPair.2⟩

/- A literal starts with its mark. -/
theorem write_eq_append
    (mark : Char)
    (s : String) :
    ∃ rest, write mark s = String.singleton mark ++ rest := by
  refine
    ⟨String.ofList
      (s.toList.flatMap (escape mark) ++ [mark]), ?_⟩
  rw [← String.toList_inj]
  simp [write, writeChars]

------------------------------------------------------------
-- Where Literals End
------------------------------------------------------------

/-
  A literal ends at one mark, and reading up to that mark does
  not look at what follows it.
-/
theorem exists_of_readBody
    (hRead : readBody mark cs = some (body, rest)) :
    ∃ inside,
      cs = inside ++ mark :: rest ∧
        ∀ after,
          readBody mark (inside ++ mark :: after) =
            some (body, after) := by
  induction cs using readBody.induct mark
      generalizing body with
  | case1 => cases hRead
  | case2 tail =>
      rw [readBody_mark] at hRead
      cases hRead
      exact ⟨[], rfl, readBody_mark⟩
  | case3 hMark =>
      rw [readBody, if_neg hMark, if_pos rfl] at hRead
      cases hRead
  | case4 d tail e inner after hTail hEscape hMark ih =>
      rw [readBody_backslash hMark, hEscape, hTail] at hRead
      cases hRead
      rcases ih hTail with ⟨inside, hText, hInside⟩
      refine ⟨'\\' :: d :: inside, ?_, ?_⟩
      · rw [hText, List.cons_append, List.cons_append]
      · intro other
        rw [List.cons_append, List.cons_append,
          readBody_backslash hMark, hEscape, hInside other]
        rfl
  | case5 d tail hNone hMark ih =>
      rw [readBody_backslash hMark,
        Option.bind_eq_some_iff] at hRead
      rcases hRead with ⟨e, hEscape, hTail⟩
      rcases Option.map_eq_some_iff.mp hTail with
        ⟨⟨inner, after⟩, hTail, _⟩
      exact absurd hTail (hNone e inner after hEscape)
  | case6 c tail hMark hBackslash hBreak =>
      rw [readBody.eq_def] at hRead
      dsimp only at hRead
      rw [if_neg hMark, if_neg hBackslash,
        if_pos hBreak] at hRead
      cases hRead
  | case7 c tail hMark hBackslash hBreak inner after hTail ih =>
      rw [readBody_plain hMark hBackslash hBreak,
        hTail] at hRead
      cases hRead
      rcases ih hTail with ⟨inside, hText, hInside⟩
      refine ⟨c :: inside, ?_, ?_⟩
      · rw [hText, List.cons_append]
      · intro other
        rw [List.cons_append,
          readBody_plain hMark hBackslash hBreak,
          hInside other]
        rfl
  | case8 c tail hMark hBackslash hBreak hTail ih =>
      rw [readBody_plain hMark hBackslash hBreak,
        hTail] at hRead
      cases hRead

/- The same of a whole literal at the front of a text. -/
theorem exists_of_readFront
    (hRead : readFront mark cs = some (body, rest)) :
    ∃ inside,
      cs = inside ++ mark :: rest ∧
        ∀ after,
          readFront mark (inside ++ mark :: after) =
            some (body, after) := by
  cases cs with
  | nil => cases hRead
  | cons c cs =>
      rw [readFront] at hRead
      by_cases hMark : c = mark
      · rw [if_pos hMark] at hRead
        rcases exists_of_readBody hRead with
          ⟨inside, hText, hInside⟩
        refine ⟨c :: inside, ?_, ?_⟩
        · rw [hText, List.cons_append]
        · intro after
          rw [List.cons_append, readFront, if_pos hMark]
          exact hInside after
      · rw [if_neg hMark] at hRead
        cases hRead

/- A literal does not end before its last mark. -/
theorem readFront_eq_none
    {before after : List Char}
    (hMark : IsMark mark)
    (hText : writeChars mark body = before ++ after)
    (hAfter : after ≠ []) :
    readFront mark before = none := by
  cases hRead : readFront mark before with
  | none => rfl
  | some read =>
      rcases read with ⟨other, rest⟩
      rcases exists_of_readFront hRead with
        ⟨inside, rfl, hInside⟩
      have hWhole := readFront_writeChars hMark body []
      rw [List.append_nil, hText, List.append_assoc,
        List.cons_append, hInside] at hWhole
      have hRest := (Prod.mk.inj (Option.some.inj hWhole)).2
      exact absurd (List.append_eq_nil_iff.mp hRest).2 hAfter

------------------------------------------------------------
-- Lines
------------------------------------------------------------

/- No escape has a break in it. -/
theorem isBreak_of_mem_escape
    (hMark : IsMark mark)
    {c d : Char}
    (hd : d ∈ escape mark c) :
    isBreak d = false := by
  unfold escape at hd
  split_ifs at hd with hBackslash hcMark hFeed hReturn hTab
  all_goals
    simp only [List.mem_cons, List.not_mem_nil,
      or_false] at hd
  · rcases hd with rfl | rfl <;> decide
  · rcases hd with rfl | rfl
    · decide
    · rcases hMark with rfl | rfl <;> decide
  · rcases hd with rfl | rfl <;> decide
  · rcases hd with rfl | rfl <;> decide
  · rcases hd with rfl | rfl <;> decide
  · subst hd
    simp [isBreak, hFeed, hReturn]

/- A literal stays on one line. -/
theorem avoids_isBreak_write
    (hMark : IsMark mark)
    (s : String) :
    Avoids isBreak (write mark s) := by
  have hMarkBreak : isBreak mark = false := by
    rcases hMark with rfl | rfl <;> decide
  apply Avoids.ofList
  intro c hc
  simp only [writeChars, List.cons_append, List.mem_cons,
    List.mem_append, List.mem_flatMap, List.not_mem_nil,
    or_false] at hc
  rcases hc with rfl | ⟨d, _, hc⟩ | rfl
  · exact hMarkBreak
  · exact isBreak_of_mem_escape hMark hc
  · exact hMarkBreak

end Quoted

end Text

end Clickstream
