import Clickstream.Script.Layout
import Clickstream.Proofs.Text.Apart
import Clickstream.Proofs.Script.Vocabulary

/-
  How lines begin. Behind its indentation a line of a test
  shows at once what it is: a comment, a statement, the opening
  or closing of a step, a filler, or a line that is moved in
  further. No two of these begin alike in any language.

  Key definitions:
    * `Lead`, `Dialect.leadText`
    * `Dialect.margin`
    * `Dialect.leads`: whether a line begins so
    * `Dialect.IsLaidOut`

  Key theorems:
    * `Dialect.IsLaidOut.lead_unique`
    * `Dialect.IsLaidOut.leads_operation`
    * `Language.dialect_isLaidOut`
-/

namespace Clickstream

namespace Script

open Text

------------------------------------------------------------
-- Leads
------------------------------------------------------------

/- What a line of a test can begin with. -/
inductive Lead where
  | deeper
  | comment
  | statement
  | stepOpen
  | stepClose
  | filler
deriving DecidableEq

/- Every lead. -/
def Lead.all : List Lead :=
  [deeper, comment, statement, stepOpen, stepClose, filler]

@[simp] theorem Lead.mem_all (lead : Lead) :
    lead ∈ Lead.all := by
  cases lead <;> decide

namespace Dialect

variable (d : Dialect)

/-
  The text of a lead. Not every language closes steps or has a
  filler; every statement begins with the page.
-/
def leadText : Lead → Option String
  | .deeper => some d.indentUnit
  | .comment => some d.commentOpen
  | .statement => some (d.statementOpen ++ d.objectName .page)
  | .stepOpen => some d.stepOpen
  | .stepClose => d.stepClose
  | .filler => d.filler

/- What lines of the body, or of a step in it, begin with. -/
def margin (extra : Nat) : String :=
  String.join (List.replicate (d.bodyDepth + extra) d.indentUnit)

/- Whether a line of the body has a lead. -/
def leads (lead : Lead) (line : String) : Bool :=
  (d.leadText lead).any fun text =>
    startsWith (d.bodyLine 0 text) line

theorem bodyLine_eq_append
    (extra : Nat)
    (text : String) :
    d.bodyLine extra text = d.margin extra ++ text :=
  rfl

/- A line further in begins with its indentation. -/
theorem bodyLine_succ
    (extra : Nat)
    (text : String) :
    d.bodyLine (extra + 1) text =
      d.bodyLine extra (d.indentUnit ++ text) := by
  have hMargin :
      d.margin (extra + 1) = d.margin extra ++ d.indentUnit := by
    unfold margin
    rw [← Nat.add_assoc, List.replicate_succ',
      String.join_append]
    simp
  rw [bodyLine_eq_append, hMargin, String.append_assoc]
  rfl

theorem leads_iff
    {lead : Lead}
    {line : String} :
    d.leads lead line = true ↔
      ∃ text rest,
        d.leadText lead = some text ∧
          line = d.bodyLine 0 (text ++ rest) := by
  unfold leads
  simp only [Option.any_eq_true, startsWith_iff,
    bodyLine_eq_append, String.append_assoc]
  constructor
  · rintro ⟨text, hText, rest, hLine⟩
    exact ⟨text, rest, hText, hLine⟩
  · rintro ⟨text, rest, hText, hLine⟩
    exact ⟨text, hText, rest, hLine⟩

/- A line that is not moved in so far has no lead. -/
theorem leads_of_apart
    {line : String}
    (hApart : Apart (d.margin 0) line)
    (lead : Lead) :
    d.leads lead line = false := by
  rw [Bool.eq_false_iff]
  intro hLead
  rcases d.leads_iff.mp hLead with ⟨text, rest, _, hLine⟩
  refine hApart.append_ne (text ++ rest) "" ?_
  rw [String.append_empty, hLine]
  rfl

end Dialect

------------------------------------------------------------
-- Dialects That Are Laid Out
------------------------------------------------------------

/-
  A dialect is laid out if no lead can be taken for another,
  and if its headers and footers do not look like the lines
  between them; a footer may have comments.
-/
structure Dialect.IsLaidOut (d : Dialect) : Prop where
  apart :
    ∀ a b, a ≠ b → ∀ s ∈ d.leadText a, ∀ t ∈ d.leadText b,
      Apart s t
  object :
    ∀ object, ∃ rest,
      d.objectName object = d.objectName .page ++ rest
  margin : d.margin 0 ≠ ""
  header :
    ∀ testName, ∀ line ∈ d.header testName, ∀ lead,
      d.leads lead line = false
  footer :
    ∀ line ∈ d.footer, ∀ lead,
      d.leads lead line = true → lead = .comment

namespace Dialect

variable {d : Dialect}

/-
  It is enough to look at the list of leads, at the names of
  objects and at the header and the footer.
-/
theorem IsLaidOut.of_pairwise
    (hApart :
      Lead.all.Pairwise fun a b =>
        ∀ s ∈ d.leadText a, ∀ t ∈ d.leadText b, Apart s t)
    (hObject :
      ∀ object ∈ PageObject.all,
        startsWith (d.objectName .page)
          (d.objectName object) = true)
    (hMargin : d.margin 0 ≠ "")
    (hHeader :
      ∀ testName, ∀ line ∈ d.header testName, ∀ lead,
        d.leads lead line = false)
    (hFooter :
      ∀ line ∈ d.footer, ∀ lead ∈ Lead.all,
        d.leads lead line = true → lead = .comment) :
    d.IsLaidOut where
  apart := by
    have : Std.Symm fun a b =>
        ∀ s ∈ d.leadText a, ∀ t ∈ d.leadText b, Apart s t :=
      ⟨fun _ _ hPair s hs t ht => (hPair t ht s hs).symm⟩
    exact fun a b hDiffer =>
      hApart.forall a.mem_all b.mem_all hDiffer
  object := fun object =>
    startsWith_iff.mp (hObject object object.mem_all)
  margin := hMargin
  header := hHeader
  footer := fun line hLine lead =>
    hFooter line hLine lead lead.mem_all

namespace IsLaidOut

variable {line : String}

/- A line has one lead at most. -/
theorem lead_unique
    (hLaidOut : d.IsLaidOut)
    {a b : Lead}
    (ha : d.leads a line = true)
    (hb : d.leads b line = true) :
    a = b := by
  rcases d.leads_iff.mp ha with ⟨s, rest, hs, hLine⟩
  rcases d.leads_iff.mp hb with ⟨t, more, ht, hSame⟩
  by_contra hDiffer
  rw [hLine, bodyLine_eq_append, bodyLine_eq_append,
    String.append_right_inj] at hSame
  exact (hLaidOut.apart a b hDiffer s hs t ht).append_ne
    rest more hSame

theorem leads_eq_false
    (hLaidOut : d.IsLaidOut)
    {a b : Lead}
    (ha : d.leads a line = true)
    (hDiffer : a ≠ b) :
    d.leads b line = false := by
  rw [Bool.eq_false_iff]
  exact fun hb => hDiffer (hLaidOut.lead_unique ha hb)

/- A blank line has no lead. -/
theorem leads_blank
    (hLaidOut : d.IsLaidOut)
    (lead : Lead) :
    d.leads lead "" = false := by
  rw [Bool.eq_false_iff]
  intro hLead
  rcases d.leads_iff.mp hLead with ⟨text, rest, _, hLine⟩
  rw [bodyLine_eq_append, eq_comm,
    String.append_eq_empty_iff] at hLine
  exact hLaidOut.margin hLine.1

end IsLaidOut

------------------------------------------------------------
-- The Leads of Lines
------------------------------------------------------------

theorem leads_deeper
    (extra : Nat)
    (text : String) :
    d.leads .deeper (d.bodyLine (extra + 1) text) = true := by
  induction extra generalizing text with
  | zero =>
      exact d.leads_iff.mpr ⟨_, text, rfl, d.bodyLine_succ 0 text⟩
  | succ extra ih =>
      rw [bodyLine_succ]
      exact ih _

theorem leads_comment (text : String) :
    d.leads .comment (d.bodyLine 0 (d.comment text)) = true :=
  d.leads_iff.mpr ⟨_, _, rfl, rfl⟩

theorem leads_stepOpen (title : String) :
    d.leads .stepOpen (d.bodyLine 0 (d.openStep title)) =
      true := by
  refine d.leads_iff.mpr
    ⟨_, d.quote title ++ d.stepOpenEnd, rfl, ?_⟩
  unfold openStep
  rw [String.append_assoc]

theorem leads_stepClose
    {close : String}
    (hClose : d.stepClose = some close) :
    d.leads .stepClose (d.bodyLine 0 close) = true :=
  d.leads_iff.mpr ⟨close, "", hClose, by
    rw [String.append_empty]⟩

theorem leads_filler
    {filler : String}
    (hFiller : d.filler = some filler) :
    d.leads .filler (d.bodyLine 0 filler) = true :=
  d.leads_iff.mpr ⟨filler, "", hFiller, by
    rw [String.append_empty]⟩

/- Every statement begins with the page. -/
theorem IsLaidOut.exists_statement_eq
    (hLaidOut : d.IsLaidOut)
    (call : Call) :
    ∃ rest,
      d.statement (d.expression call) =
        d.statementOpen ++ d.objectName .page ++ rest := by
  have hReceiver :
      ∃ rest,
        d.receiver call.receiver =
          d.objectName .page ++ rest := by
    cases call.receiver with
    | object object => exact hLaidOut.object object
    | element target =>
        have hLocator :
            d.locator target =
              d.objectName .page ++
                (String.join (target.frames.map d.hop) ++
                  d.element target.selector
                    (scopeAfter target.frames)) :=
          String.append_assoc
        exact ⟨_, hLocator⟩
  rcases hReceiver with ⟨rest, hReceiver⟩
  unfold statement expression
  rw [hReceiver]
  simp only [String.append_assoc, String.append_right_inj]
  exact ⟨_, rfl⟩

theorem IsLaidOut.leads_operation
    (hLaidOut : d.IsLaidOut)
    {operation : Operation}
    (hNote : operation.isNote = false) :
    d.leads .statement
      (d.bodyLine 0 (d.operation operation)) = true := by
  rcases Call.exists_of? hNote with ⟨call, hCall⟩
  rcases hLaidOut.exists_statement_eq call with ⟨rest, hRest⟩
  rw [d.operation_of_call hCall]
  exact d.leads_iff.mpr ⟨_, rest, rfl, by rw [hRest]⟩

end Dialect

------------------------------------------------------------
-- The Four Languages
------------------------------------------------------------

/- Only the first line of a header tells the web languages apart. -/
theorem scriptDialect_isLaidOut
    {importLine : String}
    (hImport : Apart "  " importLine) :
    (scriptDialect importLine).IsLaidOut := by
  have hSpace : (scriptDialect importLine).margin 0 = "  " := by
    have hMargin : (scriptDialect "").margin 0 = "  " := by
      decide +kernel
    exact hMargin
  apply Dialect.IsLaidOut.of_pairwise
  · have hApart :
        Lead.all.Pairwise fun a b =>
          ∀ s ∈ (scriptDialect "").leadText a,
            ∀ t ∈ (scriptDialect "").leadText b,
              Apart s t := by
      decide +kernel
    exact hApart
  · have hObject :
        ∀ object ∈ PageObject.all,
          startsWith ((scriptDialect "").objectName .page)
            ((scriptDialect "").objectName object) =
              true := by
      decide +kernel
    exact hObject
  · rw [hSpace]
    decide
  · intro testName line hLine lead
    have hBlank : (scriptDialect "").leads lead "" = false := by
      cases lead <;> decide +kernel
    have hTest : Apart "  " "test(" := by decide
    simp only [scriptDialect, List.mem_cons,
      List.not_mem_nil, or_false] at hLine
    rcases hLine with rfl | rfl | rfl
    · refine Dialect.leads_of_apart _ ?_ lead
      rw [hSpace]
      exact hImport
    · exact hBlank
    · refine Dialect.leads_of_apart _ ?_ lead
      rw [hSpace, String.append_assoc]
      exact hTest.append_right _
  · have hFooter :
        ∀ line ∈ (scriptDialect "").footer,
          ∀ lead ∈ Lead.all,
            (scriptDialect "").leads lead line = true →
              lead = .comment := by
      decide +kernel
    exact hFooter

theorem pythonDialect_isLaidOut : pythonDialect.IsLaidOut := by
  apply Dialect.IsLaidOut.of_pairwise
  · decide +kernel
  · decide +kernel
  · decide +kernel
  · intro testName line hLine lead
    have hFixed :
        ∀ line ∈ (pythonDialect.header "").take 11,
          ∀ lead ∈ Lead.all,
            pythonDialect.leads lead line = false := by
      decide +kernel
    have hDef : Apart (pythonDialect.margin 0) "def " := by
      decide +kernel
    have hParts :
        pythonDialect.header testName =
          (pythonDialect.header "").take 11 ++
            ["def " ++ snakeName testName ++
              "(page: Page) -> None:"] := rfl
    rw [hParts, List.mem_append, List.mem_singleton] at hLine
    rcases hLine with hLine | rfl
    · exact hFixed line hLine lead lead.mem_all
    · rw [String.append_assoc]
      exact Dialect.leads_of_apart _ (hDef.append_right _) lead
  · decide +kernel

theorem javaDialect_isLaidOut : javaDialect.IsLaidOut := by
  apply Dialect.IsLaidOut.of_pairwise
  · decide +kernel
  · decide +kernel
  · decide +kernel
  · intro testName line hLine lead
    have hClass : Apart (javaDialect.margin 0) "public class " := by
      decide +kernel
    have hVoid : Apart (javaDialect.margin 0) "    void " := by
      decide +kernel
    have hFixed :
        ∀ line ∈ (javaDialect.header "").take 7 ++
            ((javaDialect.header "").drop 8).take 6 ++
              (javaDialect.header "").drop 15,
          ∀ lead ∈ Lead.all,
            javaDialect.leads lead line = false := by
      decide +kernel
    have hParts :
        javaDialect.header testName =
          (javaDialect.header "").take 7 ++
            ("public class " ++ pascalName testName ++
              " \x7b") ::
            (((javaDialect.header "").drop 8).take 6 ++
              ("    void " ++ camelName testName ++
                "() \x7b") ::
              (javaDialect.header "").drop 15) := rfl
    rw [hParts, List.mem_append, List.mem_cons,
      List.mem_append, List.mem_cons] at hLine
    simp only [List.mem_append] at hFixed
    rcases hLine with hLine | rfl | hLine | rfl | hLine
    · exact hFixed line (Or.inl (Or.inl hLine)) lead
        lead.mem_all
    · rw [String.append_assoc]
      exact Dialect.leads_of_apart _
        (hClass.append_right _) lead
    · exact hFixed line (Or.inl (Or.inr hLine)) lead
        lead.mem_all
    · rw [String.append_assoc]
      exact Dialect.leads_of_apart _
        (hVoid.append_right _) lead
    · exact hFixed line (Or.inr hLine) lead lead.mem_all
  · decide +kernel

end Script

/- The lines of every language begin apart. -/
theorem Language.dialect_isLaidOut
    (language : Language) :
    language.dialect.IsLaidOut := by
  cases language with
  | javaScript => exact Script.scriptDialect_isLaidOut (by decide)
  | typeScript => exact Script.scriptDialect_isLaidOut (by decide)
  | python => exact Script.pythonDialect_isLaidOut
  | java => exact Script.javaDialect_isLaidOut

end Clickstream
