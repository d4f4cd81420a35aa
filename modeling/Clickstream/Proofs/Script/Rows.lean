import Mathlib.Data.List.Forall2
import Clickstream.Proofs.Script.Lines

/-
  The rows of a file: what every line of it is there for, as
  far as the plan tells. A rendered file has exactly these
  lines, whatever texts the plan holds.

  Key definitions:
    * `Row`, `Row.Shows`
    * `Row.ofOperation`, `Row.ofStep`, `Row.ofEntry`
    * `Row.ofPlan`
    * `Language.headerSize`

  Key theorems:
    * `Row.forall₂_fileLines`
    * `Language.render_rows`
-/

namespace Clickstream

namespace Script

open Text

------------------------------------------------------------
-- Rows
------------------------------------------------------------

/-
  What a line is there for. `extra` tells how much further
  than the body of the test the line is moved in.
-/
inductive Row where
  | fixed (text : String)
  | blank
  | statement (extra : Nat) (operation : Operation)
  | remark (extra : Nat) (text : String)
  | stepOpen (title : String)
  | stepClose (text : String)
  | filler (extra : Nat) (text : String)

namespace Row

/-
  Whether a line is what a row says. A remark starts with the
  marker of comments behind its indentation, and it has no
  end of line for any reader of the file.
-/
def Shows (d : Dialect) : Row → String → Prop
  | fixed text, line => line = text
  | blank, line => line = ""
  | statement extra operation, line =>
      ∃ call,
        Call.of? operation = some call ∧
          line =
            d.bodyLine extra
              (d.statement (d.expression call))
  | remark extra text, line =>
      line = d.bodyLine extra (d.comment text) ∧
        (∃ words,
          line = d.bodyLine extra (d.commentOpen ++ words)) ∧
          Avoids isLineEnd line
  | stepOpen title, line =>
      line = d.bodyLine 0 (d.openStep title)
  | stepClose text, line => line = d.bodyLine 0 text
  | filler extra text, line => line = d.bodyLine extra text

/- The row of an operation: a note is a remark. -/
def ofOperation (extra : Nat) : Operation → Row
  | .note text => remark extra text
  | other => statement extra other

/- The filler of a block that has nothing but remarks. -/
def ofFiller
    (d : Dialect)
    (extra : Nat)
    (isBare : Bool) : List Row :=
  if isBare then d.filler.toList.map (filler extra) else []

/- The rows of a step. -/
def ofStep
    (d : Dialect)
    (step : Step) : List Row :=
  stepOpen step.title ::
    step.operations.map (ofOperation 1) ++
    ofFiller d 1 (step.operations.all Operation.isNote) ++
    d.stepClose.toList.map stepClose

/- The rows of an entry, the blank line before it included. -/
def ofEntry (d : Dialect) : Entry → List Row
  | .step step => blank :: ofStep d step
  | .skipped reason =>
      [blank, remark 0 ("Skipped: " ++ reason)]

/- The rows before the first entry. -/
def ofOpening
    (d : Dialect)
    (placeholderUrl : String)
    (opening : List Operation) : List Row :=
  if opening = [] then
    [remark 0
      "No start URL was recorded; replace the placeholder below",
      remark 0 (d.operation (.goto placeholderUrl))]
  else
    opening.map (ofOperation 0)

/- The rows of a file. -/
def ofPlan
    (d : Dialect)
    (testName placeholderUrl : String)
    (plan : Plan) : List Row :=
  (d.header testName).map fixed ++
    ofOpening d placeholderUrl plan.opening ++
    plan.entries.flatMap (ofEntry d) ++
    ofFiller d 0
      (plan.opening.isEmpty && plan.steps.isEmpty) ++
    blank :: d.footer.map fixed

end Row

namespace Row

------------------------------------------------------------
-- Files Row by Row
------------------------------------------------------------

variable (language : Language)

/- A comment that is moved in shows its remark. -/
theorem shows_remark
    (extra : Nat)
    (text : String) :
    (remark extra text).Shows language.dialect
      (language.dialect.bodyLine extra
        (language.dialect.comment text)) :=
  ⟨rfl, ⟨_, rfl⟩,
    Dialect.avoids_isLineEnd_comment language extra text⟩

/- An operation that is moved in shows its row. -/
theorem shows_operation
    (extra : Nat)
    (operation : Operation) :
    (ofOperation extra operation).Shows language.dialect
      (language.dialect.bodyLine extra
        (language.dialect.operation operation)) := by
  cases hNote : operation.isNote with
  | true =>
      cases operation with
      | note text => exact shows_remark language extra text
      | _ => cases hNote
  | false =>
      rcases Call.exists_of? hNote with ⟨call, hCall⟩
      have hRow :
          ofOperation extra operation =
            statement extra operation := by
        cases operation with
        | note text => cases hNote
        | _ => rfl
      rw [hRow, language.dialect.operation_of_call hCall]
      exact ⟨call, hCall, rfl⟩

/- Operations show their rows one by one. -/
theorem forall₂_operations
    (extra : Nat)
    (operations : List Operation) :
    List.Forall₂ (Shows language.dialect)
      (operations.map (ofOperation extra))
      (operations.map fun op =>
        language.dialect.bodyLine extra
          (language.dialect.operation op)) := by
  rw [List.forall₂_map_left_iff, List.forall₂_map_right_iff,
    List.forall₂_same]
  intro operation _
  exact shows_operation language extra operation

/- Fixed lines show themselves. -/
theorem forall₂_fixed
    (d : Dialect)
    (lines : List String) :
    List.Forall₂ (Shows d) (lines.map fixed) lines := by
  rw [List.forall₂_map_left_iff, List.forall₂_same]
  intro line _
  rfl

theorem forall₂_filler
    (d : Dialect)
    (extra : Nat)
    (isBare : Bool) :
    List.Forall₂ (Shows d) (ofFiller d extra isBare)
      (d.fillerLines extra isBare) := by
  unfold ofFiller Dialect.fillerLines
  split
  · rw [List.forall₂_map_left_iff,
      List.forall₂_map_right_iff, List.forall₂_same]
    intro text _
    rfl
  · exact .nil

theorem forall₂_step
    (step : Step) :
    List.Forall₂ (Shows language.dialect)
      (ofStep language.dialect step)
      (language.dialect.stepLines step) := by
  have hOpen :
      (stepOpen step.title).Shows language.dialect
        (language.dialect.bodyLine 0
          (language.dialect.openStep step.title)) := rfl
  have hClose :
      List.Forall₂ (Shows language.dialect)
        (language.dialect.stepClose.toList.map stepClose)
        (language.dialect.stepClose.toList.map
          (language.dialect.bodyLine 0)) := by
    rw [List.forall₂_map_left_iff,
      List.forall₂_map_right_iff, List.forall₂_same]
    intro text _
    rfl
  exact List.rel_append
    (List.rel_append
      (.cons hOpen
        (forall₂_operations language 1 step.operations))
      (forall₂_filler language.dialect 1 _))
    hClose

theorem forall₂_entry
    (entry : Entry) :
    List.Forall₂ (Shows language.dialect)
      (ofEntry language.dialect entry)
      ("" :: language.dialect.entryLines entry) := by
  cases entry with
  | step step => exact .cons rfl (forall₂_step language step)
  | skipped reason =>
      exact .cons rfl
        (.cons (shows_remark language 0 _) .nil)

theorem forall₂_opening
    (placeholderUrl : String)
    (opening : List Operation) :
    List.Forall₂ (Shows language.dialect)
      (ofOpening language.dialect placeholderUrl opening)
      (language.dialect.openingLines placeholderUrl
        opening) := by
  cases opening with
  | nil =>
      exact .cons (shows_remark language 0 _)
        (.cons (shows_remark language 0 _) .nil)
  | cons first others =>
      exact forall₂_operations language 0 (first :: others)

/- The lines of a file show the rows of its plan. -/
theorem forall₂_fileLines
    (testName placeholderUrl : String)
    (plan : Plan) :
    List.Forall₂ (Shows language.dialect)
      (ofPlan language.dialect testName placeholderUrl plan)
      (language.dialect.fileLines testName placeholderUrl
        plan) := by
  have hEntries :
      List.Forall₂ (Shows language.dialect)
        (plan.entries.flatMap (ofEntry language.dialect))
        (plan.entries.flatMap fun entry =>
          "" :: language.dialect.entryLines entry) := by
    induction plan.entries with
    | nil => exact .nil
    | cons entry entries ih =>
        rw [List.flatMap_cons, List.flatMap_cons]
        exact List.rel_append
          (forall₂_entry language entry) ih
  have hFooter :
      List.Forall₂ (Shows language.dialect)
        (blank :: language.dialect.footer.map fixed)
        ("" :: language.dialect.footer) :=
    .cons rfl (forall₂_fixed _ _)
  exact List.rel_append
    (List.rel_append
      (List.rel_append
        (List.rel_append
          (forall₂_fixed _ _)
          (forall₂_opening language placeholderUrl
            plan.opening))
        hEntries)
      (forall₂_filler language.dialect 0 _))
    hFooter

end Row

end Script

namespace Language

open Script

/- How many lines stand before the body of a test. -/
def headerSize : Language → Nat
  | .javaScript => 3
  | .typeScript => 3
  | .python => 12
  | .java => 18

/- What a comment starts with. -/
def commentMarker : Language → String
  | .python => "#"
  | _ => "//"

/-
  Whatever the texts in a plan, a file splits at line feeds
  into exactly the rows of the plan; the last line feed is
  followed by nothing. There is no carriage return, and no
  backslash of a Java file starts a Unicode escape.
-/
theorem render_rows
    (language : Language)
    (testName placeholderUrl : String)
    (plan : Plan) :
    List.Forall₂ (Row.Shows language.dialect)
        (Row.ofPlan language.dialect testName placeholderUrl
          plan ++ [Row.blank])
        (Text.parts
          (language.dialect.render testName placeholderUrl
            plan)) ∧
      (language.dialect.header testName).length =
        language.headerSize ∧
      language.dialect.commentOpen =
        language.commentMarker ++ " " ∧
      '\r' ∉
        (language.dialect.render testName placeholderUrl
          plan).toList ∧
      ¬ Text.HasUnicodeEscape
        (Language.java.dialect.render testName placeholderUrl
          plan).toList := by
  have hLines :=
    language.avoids_isBreak_fileLines testName placeholderUrl
      plan
  refine ⟨?_, ?_, ?_, ?_, ?_⟩
  · have hParts :
        Text.parts
            (language.dialect.render testName placeholderUrl
              plan) =
          language.dialect.fileLines testName placeholderUrl
            plan ++ [""] :=
      Text.parts_unlines fun line hLine =>
        (hLines line hLine).lineFeed_not_mem
    rw [hParts]
    exact List.rel_append
      (Row.forall₂_fileLines language testName placeholderUrl
        plan)
      (.cons rfl .nil)
  · cases language <;> rfl
  · cases language <;> rfl
  · refine Text.not_mem_unlines (by decide) ?_
    intro line hLine hMem
    have hBreak := hLines line hLine '\r' hMem
    exact absurd hBreak (by decide)
  · have hHarmless :=
      Language.harmless_fileLines testName placeholderUrl plan
    exact Text.not_hasUnicodeEscape_of_scan
      (Text.settled_unlines hHarmless)

end Language

end Clickstream
