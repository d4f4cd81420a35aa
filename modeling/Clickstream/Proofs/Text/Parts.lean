import Clickstream.Proofs.Text.Plain

/-
  Lines read back from a text. Lines without line feeds come
  back as they were written, and a row of blocks of lines
  comes back where blank lines stand between the blocks.

  Key definitions:
    * `Text.parts`: what stands between line feeds

  Key theorems:
    * `Text.parts_unlines`, `Text.unlines_inj`
    * `Text.blocks_inj`
    * `Text.avoids_indent`
    * `Text.not_mem_unlines`
-/

namespace Clickstream

namespace Text

------------------------------------------------------------
-- Splitting at Line Feeds
------------------------------------------------------------

/- The parts of a text between its line feeds. -/
def parts (text : String) : List String :=
  (text.split '\n').toList.map (·.copy)

/- Lines are joined by line feeds, with nothing at the end. -/
theorem unlines_eq_intercalate (lines : List String) :
    unlines lines =
      String.intercalate (String.singleton '\n')
        (lines ++ [""]) := by
  induction lines with
  | nil => simp [unlines]
  | cons line lines ih =>
      have hRest : lines ++ [""] ≠ [] := by simp
      rw [List.cons_append,
        String.intercalate_cons_of_ne_nil hRest, ← ih]
      simp [unlines, String.append_assoc]

/-
  Splitting at line feeds gives the lines back. The last line
  feed is followed by nothing.
-/
theorem parts_unlines
    {lines : List String}
    (hLines : ∀ line ∈ lines, '\n' ∉ line.toList) :
    parts (unlines lines) = lines ++ [""] := by
  have hParts :
      ∀ line ∈ lines ++ [""], '\n' ∉ line.toList := by
    intro line hLine
    rcases List.mem_append.mp hLine with hLine | hLine
    · exact hLines line hLine
    · simp only [List.mem_singleton] at hLine
      subst hLine
      simp
  rw [parts, unlines_eq_intercalate,
    String.toList_split_intercalate hParts]
  simp

/- Lines without line feeds are known from their text. -/
theorem unlines_inj
    {lines others : List String}
    (hLines : ∀ line ∈ lines, '\n' ∉ line.toList)
    (hOthers : ∀ line ∈ others, '\n' ∉ line.toList)
    (hText : unlines lines = unlines others) :
    lines = others := by
  have hParts := congrArg parts hText
  rw [parts_unlines hLines, parts_unlines hOthers] at hParts
  exact List.append_cancel_right hParts

/- A line that avoids breaks has no line feed. -/
theorem Avoids.lineFeed_not_mem
    {line : String}
    (hLine : Avoids isBreak line) :
    '\n' ∉ line.toList := by
  intro hMem
  exact absurd (hLine _ hMem) (by decide)

/- Lines bring no character into a text but line feeds. -/
theorem not_mem_unlines
    {lines : List String}
    {c : Char}
    (hc : c ≠ '\n')
    (hLines : ∀ line ∈ lines, c ∉ line.toList) :
    c ∉ (unlines lines).toList := by
  rw [unlines, String.toList_join]
  simp only [List.mem_flatMap, List.mem_map,
    not_exists, not_and]
  rintro text ⟨line, hLine, rfl⟩ hMem
  rw [String.toList_append, List.mem_append] at hMem
  rcases hMem with hMem | hMem
  · exact hLines line hLine hMem
  · exact hc (by simpa using hMem)

------------------------------------------------------------
-- Blocks of Lines
------------------------------------------------------------

/-
  Blocks of lines with a blank line before each but the
  first: where no block has a blank line of its own, the
  blocks are known from the lines.
-/
theorem blocks_inj
    {first first' : List String}
    {blocks blocks' : List (List String)}
    (hFirst : "" ∉ first)
    (hFirst' : "" ∉ first')
    (hBlocks : ∀ block ∈ blocks, "" ∉ block)
    (hBlocks' : ∀ block ∈ blocks', "" ∉ block)
    (hLines :
      first ++ blocks.flatMap ("" :: ·) =
        first' ++ blocks'.flatMap ("" :: ·)) :
    first = first' ∧ blocks = blocks' := by
  have hSplit :
      ∀ (block : List String) (more : List (List String)),
        "" ∉ block → (∀ b ∈ more, "" ∉ b) →
          (block ++ more.flatMap ("" :: ·)).splitOn "" =
            block :: more := by
    intro block more hBlock hMore
    induction more generalizing block with
    | nil => simpa using List.splitOn_eq_singleton hBlock
    | cons next more ih =>
        have hNext := ih next (hMore next (by simp))
          (fun b hb => hMore b (by simp [hb]))
        rw [List.flatMap_cons, List.cons_append,
          List.splitOn_append_cons_self_of_not_mem hBlock,
          hNext]
  have hSame := congrArg (List.splitOn "") hLines
  rw [hSplit first blocks hFirst hBlocks,
    hSplit first' blocks' hFirst' hBlocks'] at hSame
  exact List.cons.inj hSame

------------------------------------------------------------
-- Single Lines
------------------------------------------------------------

/- Moving a line in brings nothing in but the indentation. -/
theorem avoids_indent
    {bad : Char → Bool}
    {unit line : String}
    {depth : Nat}
    (hUnit : Avoids bad unit)
    (hLine : Avoids bad line) :
    Avoids bad (indent unit depth line) := by
  refine Avoids.append (Avoids.join ?_) hLine
  intro text hText
  rw [List.eq_of_mem_replicate hText]
  exact hUnit

/- A text folded onto one line has no end of line. -/
theorem isLineEnd_of_mem_oneLine
    {cs : List Char}
    {c : Char}
    (hc : c ∈ oneLine cs) :
    isLineEnd c = false := by
  rcases List.mem_map.mp hc with ⟨d, _, rfl⟩
  by_cases hEnd : isLineEnd d = true
  · rw [if_pos hEnd]
    decide
  · rw [if_neg hEnd]
    exact Bool.eq_false_iff.mpr hEnd

end Text

end Clickstream
