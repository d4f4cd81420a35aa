import Clickstream.Script.Layout
import Clickstream.Proofs.Text.Parts
import Clickstream.Proofs.Script.Composed
import Clickstream.Proofs.Script.Identifiers

/-
  The lines of a file. Each is composed of spellings and
  literals or is a comment, so what holds of both holds of
  every line; in particular no line breaks.

  Key theorems:
    * `Dialect.forall_mem_fileLines`
    * `Dialect.avoids_isLineEnd_comment`
    * `Language.composed_header`
    * `Language.avoids_isBreak_fileLines`
    * `Language.harmless_fileLines`
-/

namespace Clickstream

namespace Script

open Text

------------------------------------------------------------
-- Comments
------------------------------------------------------------

/- Parting escapes brings nothing into a comment but blanks. -/
theorem mem_partUnicode
    {cs : List Char}
    {c : Char}
    (hc : c ∈ partUnicode cs) :
    c ∈ cs ∨ c = ' ' := by
  induction cs using partUnicode.induct with
  | case1 rest ih =>
      simp only [partUnicode, List.mem_cons] at hc
      rcases hc with rfl | rfl | rfl | hc
      · simp
      · simp
      · simp
      · rcases ih hc with hRest | hBlank
        · simp [hRest]
        · exact Or.inr hBlank
  | case2 d rest hPlain ih =>
      rw [partUnicode] at hc
      · rcases List.mem_cons.mp hc with rfl | hc
        · simp
        · rcases ih hc with hRest | hBlank
          · simp [hRest]
          · exact Or.inr hBlank
      · exact hPlain
  | case3 => simp [partUnicode] at hc

/- A comment of any language is its text and blanks. -/
theorem mem_guardComment
    (language : Language)
    {cs : List Char}
    {c : Char}
    (hc : c ∈ language.dialect.guardComment cs) :
    c ∈ cs ∨ c = ' ' := by
  cases language with
  | javaScript => exact Or.inl hc
  | typeScript => exact Or.inl hc
  | python => exact Or.inl hc
  | java => exact mem_partUnicode hc

/-
  The line of a comment has no character that any reader
  takes for the end of a line.
-/
theorem Dialect.avoids_isLineEnd_comment
    (language : Language)
    (extra : Nat)
    (s : String) :
    Avoids isLineEnd
      (language.dialect.bodyLine extra
        (language.dialect.comment s)) := by
  have hPlain := language.dialect_isPlain
  apply avoids_indent hPlain.indentUnit.avoids_isLineEnd
  refine hPlain.commentOpen.avoids_isLineEnd.append
    (Avoids.ofList ?_)
  intro c hc
  rcases mem_guardComment language hc with hText | hBlank
  · exact isLineEnd_of_mem_oneLine hText
  · subst hBlank
    decide

/-
  Parting escapes leaves none. Both states of the reader are
  treated together: a comment that does not start with `u`
  may be read behind a backslash too.
-/
theorem scan_partUnicode
    (cs : List Char) :
    (scan false (partUnicode cs)).isSome = true ∧
      (cs.head? ≠ some 'u' →
        (scan true (partUnicode cs)).isSome = true) := by
  induction cs using partUnicode.induct with
  | case1 rest ih =>
      have hRest := ih.1
      constructor
      · simpa [partUnicode, scan] using hRest
      · intro _
        simpa [partUnicode, scan] using hRest
  | case2 c rest hPlain ih =>
      have hParts :
          partUnicode (c :: rest) = c :: partUnicode rest := by
        rw [partUnicode]
        exact hPlain
      rw [hParts]
      by_cases hc : c = '\\'
      · subst hc
        have hNoU : rest.head? ≠ some 'u' := by
          intro hHead
          rcases List.head?_eq_some_iff.mp hHead with
            ⟨tail, rfl⟩
          exact hPlain tail rfl rfl
        constructor
        · simpa [scan] using ih.2 hNoU
        · intro _
          simpa [scan] using ih.1
      · constructor
        · simpa [scan, hc] using ih.1
        · intro hHead
          have hcU : c ≠ 'u' := by
            simpa using hHead
          simpa [scan, hc, hcU] using ih.1
  | case3 => simp [partUnicode, scan]

------------------------------------------------------------
-- All Lines of a File
------------------------------------------------------------

namespace Dialect

variable {d : Dialect}

theorem composed_openStep
    (hPlain : d.IsPlain)
    (title : String) :
    d.Composed (d.openStep title) :=
  ((Composed.plain hPlain.stepOpen).append
    (.quote title)).append (.plain hPlain.stepOpenEnd)

/- Moving in what is composed. -/
theorem composed_bodyLine
    (hPlain : d.IsPlain)
    (extra : Nat)
    {text : String}
    (hText : d.Composed text) :
    d.Composed (d.bodyLine extra text) := by
  have hIndent :
      Plain (String.join
        (List.replicate (d.bodyDepth + extra)
          d.indentUnit)) := by
    apply Avoids.join
    intro unit hUnit
    rw [List.eq_of_mem_replicate hUnit]
    exact hPlain.indentUnit
  exact (Composed.plain hIndent).append hText

/-
  What holds of composed texts and of comments that are moved
  in holds of every line of a file with a composed header.
-/
theorem forall_mem_fileLines
    {p : String → Prop}
    {testName placeholderUrl : String}
    {plan : Plan}
    (hPlain : d.IsPlain)
    (hHeader : ∀ line ∈ d.header testName, d.Composed line)
    (hComposed : ∀ line, d.Composed line → p line)
    (hComment :
      ∀ extra s, p (d.bodyLine extra (d.comment s))) :
    ∀ line ∈ d.fileLines testName placeholderUrl plan,
      p line := by
  have hBlank : p "" := hComposed _ (.plain avoids_empty)
  have hOperation :
      ∀ extra operation,
        p (d.bodyLine extra (d.operation operation)) := by
    intro extra operation
    cases hNote : operation.isNote with
    | false =>
        exact hComposed _ (composed_bodyLine hPlain extra
          (composed_operation hPlain hNote))
    | true =>
        cases operation with
        | note text => exact hComment extra text
        | _ => cases hNote
  have hFiller :
      ∀ extra isBare,
        ∀ line ∈ d.fillerLines extra isBare, p line := by
    intro extra isBare line hLine
    unfold fillerLines at hLine
    split at hLine
    · rcases List.mem_map.mp hLine with ⟨text, hText, rfl⟩
      have hText' := hPlain.filler text (by simpa using hText)
      exact hComposed _
        (composed_bodyLine hPlain extra (.plain hText'))
    · simp at hLine
  have hOpening :
      ∀ line ∈ d.openingLines placeholderUrl plan.opening,
        p line := by
    intro line hLine
    unfold openingLines at hLine
    split at hLine
    · simp only [placeholderLines, List.mem_cons,
        List.not_mem_nil, or_false] at hLine
      rcases hLine with rfl | rfl
      · exact hComment 0 _
      · exact hComment 0 _
    · rcases List.mem_map.mp hLine with ⟨op, _, rfl⟩
      exact hOperation 0 op
  have hStep : ∀ step, ∀ line ∈ d.stepLines step, p line := by
    intro step line hLine
    simp only [stepLines, List.mem_append,
      List.mem_cons] at hLine
    rcases hLine with ((rfl | hLine) | hLine) | hLine
    · exact hComposed _ (composed_bodyLine hPlain 0
        (composed_openStep hPlain step.title))
    · rcases List.mem_map.mp hLine with ⟨op, _, rfl⟩
      exact hOperation 1 op
    · exact hFiller 1 _ line hLine
    · rcases List.mem_map.mp hLine with ⟨text, hText, rfl⟩
      have hText' :=
        hPlain.stepClose text (by simpa using hText)
      exact hComposed _
        (composed_bodyLine hPlain 0 (.plain hText'))
  have hEntry :
      ∀ entry, ∀ line ∈ d.entryLines entry, p line := by
    intro entry line hLine
    cases entry with
    | step step => exact hStep step line hLine
    | skipped reason =>
        rw [entryLines, List.mem_singleton] at hLine
        subst hLine
        exact hComment 0 _
  intro line hLine
  simp only [fileLines, List.mem_append, List.mem_cons,
    List.mem_flatMap] at hLine
  rcases hLine with
    (((hLine | hLine) | ⟨entry, _, rfl | hLine⟩) | hLine) |
      rfl | hLine
  · exact hComposed _ (hHeader line hLine)
  · exact hOpening line hLine
  · exact hBlank
  · exact hEntry entry line hLine
  · exact hFiller 0 _ line hLine
  · exact hBlank
  · exact hComposed _ (.plain (hPlain.footer line hLine))

end Dialect

------------------------------------------------------------
-- Headers
------------------------------------------------------------

/- Identifiers are plain. -/
theorem IsIdentifier.plain
    {s : String}
    (hIdentifier : IsIdentifier s) :
    Plain s := by
  refine hIdentifier.2.mono fun c hSpecial => ?_
  by_contra hOwn
  simp only [isForeign, Bool.not_eq_true', Bool.not_eq_false,
    Bool.or_eq_true, beq_iff_eq] at hOwn
  rcases hOwn with hAlphanumeric | rfl
  · rw [isSpecial_eq_false_of_isAlphanumeric hAlphanumeric]
      at hSpecial
    cases hSpecial
  · cases hSpecial

/- The header of a test in a web language. -/
theorem composed_scriptHeader
    {importLine : String}
    (hImport : Plain importLine)
    (testName : String) :
    ∀ line ∈ (scriptDialect importLine).header testName,
      (scriptDialect importLine).Composed line := by
  have hOpen : Plain "test(" := by decide
  have hClose :
      Plain ", async (\x7b page \x7d) => \x7b" := by decide
  intro line hLine
  simp only [scriptDialect, List.mem_cons,
    List.not_mem_nil, or_false] at hLine
  rcases hLine with rfl | rfl | rfl
  · exact .plain hImport
  · exact .plain avoids_empty
  · exact ((Dialect.Composed.plain hOpen).append
      (.quote testName)).append (.plain hClose)

/-
  Only one line of the header depends on the name. The others
  can be checked with any name.
-/
theorem plain_pythonHeader (testName : String) :
    ∀ line ∈ pythonDialect.header testName, Plain line := by
  have hDef : Plain "def " := by decide
  have hArguments : Plain "(page: Page) -> None:" := by decide
  have hParts :
      pythonDialect.header testName =
        (pythonDialect.header "").take 11 ++
          ["def " ++ snakeName testName ++
            "(page: Page) -> None:"] := rfl
  have hFixed :
      ∀ line ∈ (pythonDialect.header "").take 11,
        Plain line := by
    decide +kernel
  intro line hLine
  rw [hParts, List.mem_append, List.mem_singleton] at hLine
  rcases hLine with hLine | rfl
  · exact hFixed line hLine
  · exact (hDef.append
      (isIdentifier_snakeName testName).plain).append hArguments

/- Two lines of the header depend on the name. -/
theorem plain_javaHeader (testName : String) :
    ∀ line ∈ javaDialect.header testName, Plain line := by
  have hClass : Plain "public class " := by decide
  have hBody : Plain " \x7b" := by decide
  have hVoid : Plain "    void " := by decide
  have hArguments : Plain "() \x7b" := by decide
  have hParts :
      javaDialect.header testName =
        (javaDialect.header "").take 7 ++
          ("public class " ++ pascalName testName ++ " \x7b") ::
          (((javaDialect.header "").drop 8).take 6 ++
            ("    void " ++ camelName testName ++ "() \x7b") ::
            (javaDialect.header "").drop 15) := rfl
  have hImports :
      ∀ line ∈ (javaDialect.header "").take 7,
        Plain line := by
    decide +kernel
  have hRunner :
      ∀ line ∈ ((javaDialect.header "").drop 8).take 6,
        Plain line := by
    decide +kernel
  have hOpening :
      ∀ line ∈ (javaDialect.header "").drop 15,
        Plain line := by
    decide +kernel
  intro line hLine
  rw [hParts, List.mem_append, List.mem_cons,
    List.mem_append, List.mem_cons] at hLine
  rcases hLine with hLine | rfl | hLine | rfl | hLine
  · exact hImports line hLine
  · exact (hClass.append
      (isIdentifier_pascalName testName).plain).append hBody
  · exact hRunner line hLine
  · exact (hVoid.append
      (isIdentifier_camelName testName).plain).append hArguments
  · exact hOpening line hLine

end Script

namespace Language

open Script Text

/- Every line of a header is composed. -/
theorem composed_header
    (language : Language)
    (testName : String) :
    ∀ line ∈ language.dialect.header testName,
      language.dialect.Composed line := by
  cases language with
  | javaScript =>
      exact composed_scriptHeader (by decide +kernel) testName
  | typeScript =>
      exact composed_scriptHeader (by decide +kernel) testName
  | python =>
      intro line hLine
      exact .plain (plain_pythonHeader testName line hLine)
  | java =>
      intro line hLine
      exact .plain (plain_javaHeader testName line hLine)

/- No line of a file breaks. -/
theorem avoids_isBreak_fileLines
    (language : Language)
    (testName placeholderUrl : String)
    (plan : Plan) :
    ∀ line ∈ language.dialect.fileLines testName
        placeholderUrl plan,
      Avoids isBreak line := by
  have hPlain := language.dialect_isPlain
  refine Dialect.forall_mem_fileLines (p := Avoids isBreak)
    hPlain (language.composed_header testName) ?_ ?_
  · intro line hLine
    exact hLine.avoids_isBreak hPlain.mark
  · intro extra s
    exact (Dialect.avoids_isLineEnd_comment language extra
      s).isBreak_of_isLineEnd

/- No line of a Java file has a Unicode escape. -/
theorem harmless_fileLines
    (testName placeholderUrl : String)
    (plan : Plan) :
    ∀ line ∈ Language.java.dialect.fileLines testName
        placeholderUrl plan,
      Harmless line := by
  have hPlain := Language.java.dialect_isPlain
  refine Dialect.forall_mem_fileLines (p := Harmless)
    hPlain (Language.java.composed_header testName) ?_ ?_
  · intro line hLine
    exact (hLine.settled hPlain.mark).harmless
  · intro extra s
    have hOpen :
        Language.java.dialect.Composed
          (Language.java.dialect.bodyLine extra
            Language.java.dialect.commentOpen) :=
      Dialect.composed_bodyLine hPlain extra
        (.plain hPlain.commentOpen)
    have hWords :
        Harmless (String.ofList
          (partUnicode (oneLine s.toList))) := by
      unfold Harmless
      rw [String.toList_ofList]
      exact (scan_partUnicode _).1
    have hLine :=
      (hOpen.settled hPlain.mark).append_harmless hWords
    unfold Dialect.bodyLine indent at hLine
    rw [String.append_assoc] at hLine
    exact hLine

end Language

end Clickstream
