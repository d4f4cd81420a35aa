import Clickstream.Proofs.Script.Legible
import Clickstream.Proofs.Script.Lines

/-
  Outlines: what a file tells of a plan without remarks. Every
  dialect writes files from outlines and every file gives its
  outline back, so all languages tell the same plans apart.

  Key definitions:
    * `Plan.IsRemarkFree`
    * `Passage`, `Outline`, `Outline.ofPlan`
    * `Dialect.outlineLines`

  Key theorems:
    * `Dialect.fileLines_eq_outlineLines`
    * `Dialect.IsLegible.outline_inj`
    * `Language.render_eq_iff`
    * `Language.render_eq_iff_render_eq`
-/

namespace Clickstream

------------------------------------------------------------
-- Plans without Remarks
------------------------------------------------------------

/- Whether an entry is a step without notes. -/
def Entry.IsRemarkFree : Entry → Prop
  | .step s => ∀ op ∈ s.operations, op.isNote = false
  | .skipped _ => False

instance (entry : Entry) : Decidable entry.IsRemarkFree :=
  match entry with
  | .step s =>
      inferInstanceAs
        (Decidable (∀ op ∈ s.operations, op.isNote = false))
  | .skipped _ => inferInstanceAs (Decidable False)

/- Whether a plan has neither notes nor skipped entries. -/
def Plan.IsRemarkFree (plan : Plan) : Prop :=
  (∀ op ∈ plan.opening, op.isNote = false) ∧
    ∀ entry ∈ plan.entries, entry.IsRemarkFree

instance (plan : Plan) : Decidable plan.IsRemarkFree :=
  inferInstanceAs (Decidable (_ ∧ _))

namespace Script

open Text

------------------------------------------------------------
-- Outlines
------------------------------------------------------------

/- What is written of a step. -/
structure Passage where
  title : String
  sketches : List Sketch

/- What is written of a plan. -/
structure Outline where
  opening : List Sketch
  passages : List Passage

/- What is written of operations, notes apart. -/
def sketchesOf (operations : List Operation) : List Sketch :=
  operations.filterMap Sketch.of?

def Passage.ofStep (step : Step) : Passage where
  title := step.title
  sketches := sketchesOf step.operations

def Outline.ofPlan (plan : Plan) : Outline where
  opening := sketchesOf plan.opening
  passages := plan.steps.map Passage.ofStep

namespace Dialect

variable (d : Dialect)

/- The line of a sketch. -/
def sketchLine (extra : Nat) (sketch : Sketch) : String :=
  d.bodyLine extra (d.statement (d.sketch sketch))

/- The lines before the first passage, filler included. -/
def firstLines
    (placeholderUrl : String)
    (outline : Outline) : List String :=
  (if outline.opening.isEmpty then
      d.placeholderLines placeholderUrl
    else outline.opening.map (d.sketchLine 0)) ++
  d.fillerLines 0
    (outline.opening.isEmpty && outline.passages.isEmpty)

/- The lines of a passage. -/
def passageLines (passage : Passage) : List String :=
  d.bodyLine 0 (d.openStep passage.title) ::
    (passage.sketches.map (d.sketchLine 1) ++
      d.fillerLines 1 passage.sketches.isEmpty ++
      d.stepClose.toList.map (d.bodyLine 0))

/- The lines of a file, by the outline of its plan. -/
def outlineLines
    (testName placeholderUrl : String)
    (outline : Outline) : List String :=
  d.header testName ++
    (d.firstLines placeholderUrl outline ++
      (outline.passages.map d.passageLines).flatMap
        ("" :: ·)) ++
    "" :: d.footer

------------------------------------------------------------
-- Files from Outlines
------------------------------------------------------------

/- Operations are written by their sketches. -/
theorem map_sketchLine_sketchesOf
    (extra : Nat)
    {operations : List Operation}
    (hNotes : ∀ op ∈ operations, op.isNote = false) :
    (sketchesOf operations).map (d.sketchLine extra) =
      operations.map
        (fun op => d.bodyLine extra (d.operation op)) := by
  unfold sketchesOf
  induction operations with
  | nil => rfl
  | cons op operations ih =>
      have hOp := hNotes op (by simp)
      have hRest := ih fun o ho => hNotes o (by simp [ho])
      rcases Sketch.exists_of? hOp with ⟨sketch, hSketch⟩
      rw [List.filterMap_cons_some hSketch, List.map_cons,
        List.map_cons, hRest,
        d.operation_of_sketch hSketch]
      rfl

/- No operation but a note goes without a sketch. -/
theorem isEmpty_sketchesOf
    {operations : List Operation}
    (hNotes : ∀ op ∈ operations, op.isNote = false) :
    (sketchesOf operations).isEmpty = operations.isEmpty := by
  unfold sketchesOf
  cases operations with
  | nil => rfl
  | cons op operations =>
      have hOp := hNotes op (by simp)
      rcases Sketch.exists_of? hOp with ⟨sketch, hSketch⟩
      rw [List.filterMap_cons_some hSketch]
      rfl

/- Without notes only an empty block has no statement. -/
theorem all_isNote_eq_isEmpty
    {operations : List Operation}
    (hNotes : ∀ op ∈ operations, op.isNote = false) :
    operations.all Operation.isNote =
      operations.isEmpty := by
  cases operations with
  | nil => rfl
  | cons op operations =>
      rw [List.all_cons, hNotes op (by simp)]
      rfl

/- A step without notes is written by its passage. -/
theorem stepLines_eq_passageLines
    {step : Step}
    (hNotes : ∀ op ∈ step.operations, op.isNote = false) :
    d.stepLines step = d.passageLines (.ofStep step) := by
  unfold stepLines passageLines Passage.ofStep
  dsimp only
  rw [d.map_sketchLine_sketchesOf 1 hNotes,
    isEmpty_sketchesOf hNotes, all_isNote_eq_isEmpty hNotes]
  simp only [List.cons_append, List.append_assoc]

/- Entries without remarks are written by their passages. -/
theorem flatMap_entryLines
    {entries : List Entry}
    (hEntries : ∀ entry ∈ entries, entry.IsRemarkFree) :
    entries.flatMap (fun e => "" :: d.entryLines e) =
      (((entries.filterMap Entry.step?).map
        Passage.ofStep).map d.passageLines).flatMap
          ("" :: ·) := by
  induction entries with
  | nil => rfl
  | cons entry entries ih =>
      have hEntry := hEntries entry (by simp)
      have hRest := ih fun e he => hEntries e (by simp [he])
      cases entry with
      | skipped reason => cases hEntry
      | step step =>
          have hStep :
              Entry.step? (.step step) = some step := rfl
          rw [List.filterMap_cons_some hStep,
            List.flatMap_cons, List.map_cons, List.map_cons,
            List.flatMap_cons, hRest, entryLines,
            d.stepLines_eq_passageLines hEntry]

/- A plan without remarks is written by its outline. -/
theorem fileLines_eq_outlineLines
    (testName placeholderUrl : String)
    {plan : Plan}
    (hPlan : plan.IsRemarkFree) :
    d.fileLines testName placeholderUrl plan =
      d.outlineLines testName placeholderUrl
        (.ofPlan plan) := by
  rcases hPlan with ⟨hOpening, hEntries⟩
  have hEmpty :
      (Outline.ofPlan plan).opening.isEmpty =
        plan.opening.isEmpty :=
    isEmpty_sketchesOf hOpening
  have hPassages :
      (Outline.ofPlan plan).passages.isEmpty =
        plan.steps.isEmpty := by
    unfold Outline.ofPlan
    rw [List.isEmpty_map]
  have hBody :
      plan.entries.flatMap (fun e => "" :: d.entryLines e) =
        ((Outline.ofPlan plan).passages.map
          d.passageLines).flatMap ("" :: ·) :=
    d.flatMap_entryLines hEntries
  have hFirst :
      (if (Outline.ofPlan plan).opening.isEmpty then
          d.placeholderLines placeholderUrl
        else
          (Outline.ofPlan plan).opening.map
            (d.sketchLine 0)) =
        d.openingLines placeholderUrl plan.opening := by
    rw [hEmpty]
    unfold openingLines Outline.ofPlan
    rw [d.map_sketchLine_sketchesOf 0 hOpening]
  unfold fileLines outlineLines firstLines isBare
  rw [hFirst, hEmpty, hPassages, hBody]
  -- The filler stands only where no entry does.
  cases hSteps : plan.steps with
  | nil =>
      have hNone : (Outline.ofPlan plan).passages = [] := by
        unfold Outline.ofPlan
        rw [hSteps]
        rfl
      rw [hNone]
      simp
  | cons step steps =>
      simp [fillerLines]

------------------------------------------------------------
-- Outlines from Files
------------------------------------------------------------

variable {d : Dialect}

namespace IsLegible

/- No line that is moved in is blank. -/
theorem bodyLine_ne_empty
    (hLegible : d.IsLegible)
    (extra : Nat)
    (text : String) :
    d.bodyLine extra text ≠ "" := by
  have hDepth : d.bodyDepth + extra ≠ 0 := by
    have hPositive := hLegible.bodyDepth
    omega
  rcases Nat.exists_eq_succ_of_ne_zero hDepth with
    ⟨depth, hSucc⟩
  intro hBlank
  unfold bodyLine indent at hBlank
  rw [hSucc, List.replicate_succ, String.join_cons,
    String.append_eq_empty_iff,
    String.append_eq_empty_iff] at hBlank
  exact hLegible.indentUnit hBlank.1.1

/- A blank line is no line of a row that is moved in. -/
theorem empty_not_mem_map_bodyLine
    {α : Type}
    (hLegible : d.IsLegible)
    (extra : Nat)
    (text : α → String)
    (row : List α) :
    "" ∉ row.map (fun a => d.bodyLine extra (text a)) := by
  intro hBlank
  rcases List.mem_map.mp hBlank with ⟨a, _, hLine⟩
  exact hLegible.bodyLine_ne_empty extra _ hLine

theorem empty_not_mem_fillerLines
    (hLegible : d.IsLegible)
    (extra : Nat)
    (isBare : Bool) :
    "" ∉ d.fillerLines extra isBare := by
  unfold fillerLines
  split
  · exact hLegible.empty_not_mem_map_bodyLine extra id _
  · exact List.not_mem_nil

theorem empty_not_mem_firstLines
    (hLegible : d.IsLegible)
    (placeholderUrl : String)
    (outline : Outline) :
    "" ∉ d.firstLines placeholderUrl outline := by
  have hOpening :
      "" ∉ (if outline.opening.isEmpty then
          d.placeholderLines placeholderUrl
        else outline.opening.map (d.sketchLine 0)) := by
    split
    · intro hBlank
      rcases List.mem_cons.mp hBlank with hLine | hBlank
      · exact hLegible.bodyLine_ne_empty _ _ hLine.symm
      · have hLine := List.mem_singleton.mp hBlank
        exact hLegible.bodyLine_ne_empty _ _ hLine.symm
    · exact hLegible.empty_not_mem_map_bodyLine 0 _ _
  intro hBlank
  rcases List.mem_append.mp hBlank with hBlank | hBlank
  · exact hOpening hBlank
  · exact hLegible.empty_not_mem_fillerLines 0 _ hBlank

theorem empty_not_mem_passageLines
    (hLegible : d.IsLegible)
    (passage : Passage) :
    "" ∉ d.passageLines passage := by
  intro hBlank
  rcases List.mem_cons.mp hBlank with hLine | hBlank
  · exact hLegible.bodyLine_ne_empty _ _ hLine.symm
  rcases List.mem_append.mp hBlank with hBlank | hBlank
  · rcases List.mem_append.mp hBlank with hBlank | hBlank
    · exact
        hLegible.empty_not_mem_map_bodyLine 1 _ _ hBlank
    · exact hLegible.empty_not_mem_fillerLines 1 _ hBlank
  · exact hLegible.empty_not_mem_map_bodyLine 0 id _ hBlank

/- The line of a sketch starts as its object does. -/
theorem bodyLine_ne_sketchLine
    {text : String}
    (hApart :
      ∀ object,
        Apart text (d.statementOpen ++ d.objectName object))
    (rest : String)
    (extra : Nat)
    (sketch : Sketch) :
    d.bodyLine extra (text ++ rest) ≠
      d.sketchLine extra sketch := by
  intro hLine
  unfold sketchLine bodyLine indent statement at hLine
  rw [String.append_right_inj] at hLine
  unfold Dialect.sketch at hLine
  simp only [String.append_assoc] at hLine
  rw [← String.append_assoc] at hLine
  exact (hApart sketch.object).append_ne _ _ hLine

/- Sketches are known from their lines. -/
theorem map_sketchLine_inj
    (hLegible : d.IsLegible)
    {extra : Nat}
    {as bs : List Sketch}
    (hLines :
      as.map (d.sketchLine extra) =
        bs.map (d.sketchLine extra)) :
    as = bs := by
  refine (List.map_inj_right ?_).mp hLines
  intro a b hLine
  unfold sketchLine bodyLine indent statement at hLine
  rw [String.append_right_inj, String.append_left_inj,
    String.append_right_inj] at hLine
  exact hLegible.sketch_inj hLine

/- The filler of a block is not the line of a sketch. -/
theorem fillerLines_ne_map_sketchLine
    (hLegible : d.IsLegible)
    (extra : Nat)
    {row : List Sketch}
    (hRow : row ≠ []) :
    d.fillerLines extra true ≠
      row.map (d.sketchLine extra) := by
  unfold fillerLines
  rw [if_pos rfl]
  cases row with
  | nil => exact absurd rfl hRow
  | cons sketch row =>
      intro hLines
      cases hFiller : d.filler with
      | none =>
          rw [hFiller] at hLines
          cases hLines
      | some text =>
          rw [hFiller] at hLines
          have hLine := (List.cons.inj hLines).1
          have hApart := hLegible.filler text hFiller
          refine bodyLine_ne_sketchLine hApart "" extra
            sketch ?_
          rw [String.append_empty]
          exact hLine

/- The sketches of a block are known, the filler put aside. -/
theorem sketches_inj
    (hLegible : d.IsLegible)
    {extra : Nat}
    {as bs : List Sketch}
    (hLines :
      as.map (d.sketchLine extra) ++
          d.fillerLines extra as.isEmpty =
        bs.map (d.sketchLine extra) ++
          d.fillerLines extra bs.isEmpty) :
    as = bs := by
  by_cases ha : as = []
  · by_cases hb : bs = []
    · rw [ha, hb]
    · have hFiller :=
        hLegible.fillerLines_ne_map_sketchLine extra hb
      rw [List.isEmpty_eq_false_iff.mpr hb, ha] at hLines
      exact absurd (by simpa [fillerLines] using hLines)
        hFiller
  · have hNone := List.isEmpty_eq_false_iff.mpr ha
    by_cases hb : bs = []
    · have hFiller :=
        hLegible.fillerLines_ne_map_sketchLine extra ha
      rw [hNone, hb] at hLines
      exact absurd (by simpa [fillerLines] using hLines.symm)
        hFiller
    · rw [hNone, List.isEmpty_eq_false_iff.mpr hb] at hLines
      exact hLegible.map_sketchLine_inj
        (by simpa [fillerLines] using hLines)

/- A passage is known from its lines. -/
theorem passageLines_inj
    (hLegible : d.IsLegible)
    {a b : Passage}
    (hLines : d.passageLines a = d.passageLines b) :
    a = b := by
  rcases List.cons.inj hLines with ⟨hOpen, hRest⟩
  unfold bodyLine indent openStep at hOpen
  rw [String.append_right_inj, String.append_left_inj,
    String.append_right_inj] at hOpen
  have hTitle := hLegible.readable_quote.inj hOpen
  have hBlock := List.append_cancel_right hRest
  have hSketches := hLegible.sketches_inj hBlock
  cases a
  cases b
  dsimp only at hTitle hSketches
  rw [hTitle, hSketches]

/-
  The opening of an outline is known from the first lines. A
  placeholder is a remark and no sketch is written as one.
-/
theorem firstLines_inj
    (hLegible : d.IsLegible)
    {placeholderUrl : String}
    {a b : Outline}
    (hLines :
      d.firstLines placeholderUrl a =
        d.firstLines placeholderUrl b) :
    a.opening = b.opening := by
  have hPlaceholder :
      ∀ (rest : List String) (row : List Sketch) more,
        row ≠ [] →
          d.placeholderLines placeholderUrl ++ rest ≠
            row.map (d.sketchLine 0) ++ more := by
    intro rest row more hRow hSame
    cases row with
    | nil => exact hRow rfl
    | cons sketch row =>
        have hLine := (List.cons.inj hSame).1
        exact bodyLine_ne_sketchLine hLegible.commentOpen
          _ 0 sketch hLine
  unfold firstLines at hLines
  by_cases ha : a.opening = []
  · by_cases hb : b.opening = []
    · rw [ha, hb]
    · rw [if_pos (List.isEmpty_iff.mpr ha),
        if_neg (mt List.isEmpty_iff.mp hb)] at hLines
      exact absurd hLines (hPlaceholder _ _ _ hb)
  · by_cases hb : b.opening = []
    · rw [if_neg (mt List.isEmpty_iff.mp ha),
        if_pos (List.isEmpty_iff.mpr hb)] at hLines
      exact absurd hLines.symm (hPlaceholder _ _ _ ha)
    · rw [if_neg (mt List.isEmpty_iff.mp ha),
        if_neg (mt List.isEmpty_iff.mp hb),
        List.isEmpty_eq_false_iff.mpr ha,
        List.isEmpty_eq_false_iff.mpr hb] at hLines
      exact hLegible.map_sketchLine_inj
        (by simpa [fillerLines] using hLines)

/- An outline is known from the lines of its file. -/
theorem outline_inj
    (hLegible : d.IsLegible)
    {testName placeholderUrl : String}
    {a b : Outline}
    (hLines :
      d.outlineLines testName placeholderUrl a =
        d.outlineLines testName placeholderUrl b) :
    a = b := by
  unfold outlineLines at hLines
  have hBlocks :=
    List.append_cancel_left
      (List.append_cancel_right hLines)
  have hPassage :
      ∀ (outline : Outline),
        ∀ block ∈ outline.passages.map d.passageLines,
          "" ∉ block := by
    intro outline block hBlock
    rcases List.mem_map.mp hBlock with ⟨passage, _, rfl⟩
    exact hLegible.empty_not_mem_passageLines passage
  rcases blocks_inj
      (hLegible.empty_not_mem_firstLines placeholderUrl a)
      (hLegible.empty_not_mem_firstLines placeholderUrl b)
      (hPassage a) (hPassage b) hBlocks with
    ⟨hFirst, hRest⟩
  have hOpening := hLegible.firstLines_inj hFirst
  have hPassages : a.passages = b.passages := by
    refine (List.map_inj_right ?_).mp hRest
    intro p q hSame
    exact hLegible.passageLines_inj hSame
  cases a
  cases b
  dsimp only at hOpening hPassages
  rw [hOpening, hPassages]

end IsLegible

end Dialect

end Script

------------------------------------------------------------
-- The Four Languages
------------------------------------------------------------

namespace Language

open Script

/-
  The file of a plan without remarks tells its outline and
  nothing else of it.
-/
theorem render_eq_iff
    (language : Language)
    (testName placeholderUrl : String)
    {p q : Plan}
    (hp : p.IsRemarkFree)
    (hq : q.IsRemarkFree) :
    language.dialect.render testName placeholderUrl p =
        language.dialect.render testName placeholderUrl q ↔
      Outline.ofPlan p = Outline.ofPlan q := by
  have hFile :
      ∀ {plan : Plan}, plan.IsRemarkFree →
        language.dialect.fileLines testName placeholderUrl
            plan =
          language.dialect.outlineLines testName
            placeholderUrl (.ofPlan plan) :=
    language.dialect.fileLines_eq_outlineLines testName
      placeholderUrl
  constructor
  · intro hText
    have hLines := Text.unlines_inj
      (fun line hLine =>
        (language.avoids_isBreak_fileLines testName
          placeholderUrl p line hLine).lineFeed_not_mem)
      (fun line hLine =>
        (language.avoids_isBreak_fileLines testName
          placeholderUrl q line hLine).lineFeed_not_mem)
      hText
    rw [hFile hp, hFile hq] at hLines
    exact language.dialect_isLegible.outline_inj hLines
  · intro hOutline
    unfold Dialect.render
    rw [hFile hp, hFile hq, hOutline]

/-
  All languages tell the same plans apart: two plans without
  remarks have one text in a language just when they have one
  text in any other language.
-/
theorem render_eq_iff_render_eq
    (a b : Language)
    (testName placeholderUrl : String)
    (p q : Plan)
    (hp : p.IsRemarkFree)
    (hq : q.IsRemarkFree) :
    a.dialect.render testName placeholderUrl p =
        a.dialect.render testName placeholderUrl q ↔
      b.dialect.render testName placeholderUrl p =
        b.dialect.render testName placeholderUrl q := by
  rw [a.render_eq_iff testName placeholderUrl hp hq,
    b.render_eq_iff testName placeholderUrl hp hq]

/-
  A choice that a single selection leaves out is left out in
  every language, since it is left out in one.
-/
theorem render_java_selectOption_eq :
    javaDialect.render "t" "u"
        ⟨none, [.goto "u"],
          [.step ⟨"Select",
            [.selectOption ⟨[], .cssPath "s"⟩ ["a", "b"]
              false]⟩]⟩ =
      javaDialect.render "t" "u"
        ⟨none, [.goto "u"],
          [.step ⟨"Select",
            [.selectOption ⟨[], .cssPath "s"⟩ ["a"]
              false]⟩]⟩ :=
  (render_eq_iff_render_eq .javaScript .java "t" "u" _ _
    (by decide) (by decide)).mp rfl

end Language

end Clickstream
