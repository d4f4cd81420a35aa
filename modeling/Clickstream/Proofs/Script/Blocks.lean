import Clickstream.Script.File
import Clickstream.Proofs.Script.Framed
import Clickstream.Proofs.Script.Leads
import Clickstream.Proofs.Script.Lines

/-
  Blocks: what someone finds who reads a test line by line and
  knows nothing of its plan. A block is what is moved in far
  enough. A language that closes its steps closes each of them
  once; one that does not has a statement in every block.

  Key definitions:
    * `Dialect.block`
    * `Dialect.closings`
    * `Dialect.BehindSteps`
    * `Dialect.IsStatement`, `Dialect.HasStatement`

  Key theorems:
    * `Dialect.IsLaidOut.behindSteps_readLines`
    * `Dialect.IsLaidOut.closings_step`
    * `Dialect.hasStatement_step`
    * `Dialect.IsLaidOut.hasStatement_body`
    * `Language.blocks_generate`
-/

namespace Clickstream

namespace Script

open Text

namespace Dialect

variable (d : Dialect)

------------------------------------------------------------
-- Reading Lines
------------------------------------------------------------

/- Whether a line can stand in the body, or in a step of it. -/
def isWithin
    (extra : Nat)
    (line : String) : Bool :=
  line == "" || startsWith (d.margin extra) line

/- The block at the head of lines. -/
def block
    (extra : Nat)
    (lines : List String) : List String :=
  lines.takeWhile (d.isWithin extra)

/-
  The lines that close a step and stand before the next step
  is opened and before the body ends.
-/
def closings (lines : List String) : List String :=
  ((d.block 0 lines).takeWhile fun line =>
      !d.leads .stepOpen line).filter (d.leads .stepClose)

/- Whether lines have a property behind every opened step. -/
def BehindSteps
    (p : List String → Prop)
    (lines : List String) : Prop :=
  ∀ before line after,
    lines = before ++ line :: after →
      d.leads .stepOpen line = true → p after

/-
  The statements of a language: calls, steps with all that is
  in them, and the filler.
-/
inductive IsStatement : String → Prop where
  | call (call : Call) :
      IsStatement (d.statement (d.expression call))
  | step (title : String) :
      IsStatement (d.openStep title)
  | filler {text : String} (hFiller : d.filler = some text) :
      IsStatement text

/- Whether the block at the head of lines has a statement. -/
def HasStatement
    (extra : Nat)
    (lines : List String) : Prop :=
  ∃ text,
    d.IsStatement text ∧
      d.bodyLine extra text ∈ d.block extra lines

theorem isWithin_bodyLine
    (extra : Nat)
    (text : String) :
    d.isWithin extra (d.bodyLine extra text) = true := by
  unfold isWithin
  rw [Bool.or_eq_true]
  exact Or.inr (startsWith_iff.mpr ⟨text, rfl⟩)

/- What has a lead stands in the body. -/
theorem isWithin_of_leads
    {d : Dialect}
    {lead : Lead}
    {line : String}
    (hLead : d.leads lead line = true) :
    d.isWithin 0 line = true := by
  rcases d.leads_iff.mp hLead with ⟨text, rest, _, rfl⟩
  exact d.isWithin_bodyLine 0 (text ++ rest)

theorem filter_leads_eq_nil
    {d : Dialect}
    {lead : Lead}
    {lines : List String}
    (hLines : ∀ line ∈ lines, d.leads lead line = false) :
    lines.filter (d.leads lead) = [] := by
  apply List.filter_eq_nil_iff.mpr
  intro line hLine hLead
  rw [hLines line hLine] at hLead
  cases hLead

------------------------------------------------------------
-- Parts of a File
------------------------------------------------------------

/- The lines inside of a step. -/
def innerLines (step : Step) : List String :=
  step.operations.map (fun op =>
    d.bodyLine 1 (d.operation op)) ++
    d.fillerLines 1 (step.operations.all Operation.isNote)

/- The lines of entries. -/
def entriesLines (entries : List Entry) : List String :=
  entries.flatMap fun entry => "" :: d.entryLines entry

/- The lines behind the entries of a plan. -/
def endingLines (plan : Plan) : List String :=
  d.fillerLines 0 (isBare plan) ++ "" :: d.footer ++ [""]

/- The lines behind the header of a file. -/
def bodyLines
    (placeholderUrl : String)
    (plan : Plan) : List String :=
  d.openingLines placeholderUrl plan.opening ++
    (d.entriesLines plan.entries ++ d.endingLines plan)

/- The lines that are found in a file. -/
def readLines
    (testName placeholderUrl : String)
    (plan : Plan) : List String :=
  d.header testName ++ d.bodyLines placeholderUrl plan

theorem fileLines_append_blank
    (testName placeholderUrl : String)
    (plan : Plan) :
    d.fileLines testName placeholderUrl plan ++ [""] =
      d.readLines testName placeholderUrl plan := by
  unfold fileLines readLines bodyLines entriesLines endingLines
  simp only [List.append_assoc, List.cons_append]

theorem entryLines_step (step : Step) :
    d.entryLines (.step step) =
      d.bodyLine 0 (d.openStep step.title) ::
        (d.innerLines step ++
          d.stepClose.toList.map (d.bodyLine 0)) := by
  simp only [entryLines, stepLines, innerLines,
    List.cons_append]

theorem entriesLines_cons
    (entry : Entry)
    (rest : List Entry) :
    d.entriesLines (entry :: rest) =
      "" :: (d.entryLines entry ++ d.entriesLines rest) :=
  rfl

variable {d}
variable {line : String}
variable {lines after : List String}
variable {step : Step}
variable {plan : Plan}
variable {placeholderUrl : String}

theorem mem_fillerLines
    {extra : Nat}
    {isBare : Bool}
    (hLine : line ∈ d.fillerLines extra isBare) :
    ∃ filler,
      d.filler = some filler ∧
        line = d.bodyLine extra filler := by
  unfold fillerLines at hLine
  split at hLine
  · rcases List.mem_map.mp hLine with ⟨filler, hFiller, rfl⟩
    exact ⟨filler, Option.mem_toList.mp hFiller, rfl⟩
  · cases hLine

theorem mem_innerLines
    (hLine : line ∈ d.innerLines step) :
    ∃ text, line = d.bodyLine 1 text := by
  rcases List.mem_append.mp hLine with hOperation | hFiller
  · rcases List.mem_map.mp hOperation with ⟨op, _, rfl⟩
    exact ⟨_, rfl⟩
  · rcases mem_fillerLines hFiller with ⟨filler, _, rfl⟩
    exact ⟨_, rfl⟩

/- What is inside of a step is moved in further. -/
theorem leads_of_mem_innerLines
    (hLine : line ∈ d.innerLines step) :
    d.leads .deeper line = true := by
  rcases mem_innerLines hLine with ⟨text, rfl⟩
  exact leads_deeper 0 text

/- The opening of a test is statements or a remark. -/
theorem IsLaidOut.leads_of_mem_openingLines
    (hLaidOut : d.IsLaidOut)
    {opening : List Operation}
    (hLine : line ∈ d.openingLines placeholderUrl opening) :
    d.leads .statement line = true ∨
      d.leads .comment line = true := by
  unfold openingLines at hLine
  split at hLine
  · simp only [placeholderLines, List.mem_cons,
      List.not_mem_nil, or_false] at hLine
    rcases hLine with rfl | rfl
    · exact Or.inr (leads_comment _)
    · exact Or.inr (leads_comment _)
  · rcases List.mem_map.mp hLine with ⟨operation, _, rfl⟩
    cases hNote : operation.isNote with
    | false => exact Or.inl (hLaidOut.leads_operation hNote)
    | true =>
        cases operation with
        | note text => exact Or.inr (leads_comment text)
        | _ => cases hNote

/-
  A line of entries is blank, or it says what was skipped, or
  it is no remark of the body.
-/
theorem lead_of_mem_entriesLines
    {entries : List Entry}
    (hLine : line ∈ d.entriesLines entries) :
    line = "" ∨
      (∃ reason,
        line = d.bodyLine 0 (d.comment ("Skipped: " ++ reason))) ∨
      ∃ lead, lead ≠ .comment ∧ d.leads lead line = true := by
  rcases List.mem_flatMap.mp hLine with ⟨entry, _, hEntry⟩
  rcases List.mem_cons.mp hEntry with rfl | hEntry
  · exact Or.inl rfl
  refine Or.inr ?_
  cases entry with
  | skipped reason =>
      exact Or.inl ⟨reason, List.mem_singleton.mp hEntry⟩
  | step step =>
      refine Or.inr ?_
      rw [entryLines_step, List.mem_cons,
        List.mem_append] at hEntry
      rcases hEntry with rfl | hInner | hClose
      · exact ⟨.stepOpen, by decide, leads_stepOpen _⟩
      · exact ⟨.deeper, by decide,
          leads_of_mem_innerLines hInner⟩
      · rcases List.mem_map.mp hClose with ⟨close, hSome, rfl⟩
        exact ⟨.stepClose, by decide,
          leads_stepClose (Option.mem_toList.mp hSome)⟩

/- Behind the entries there is a filler or a remark. -/
theorem IsLaidOut.lead_of_mem_endingLines
    (hLaidOut : d.IsLaidOut)
    {lead : Lead}
    (hLine : line ∈ d.endingLines plan)
    (hLead : d.leads lead line = true) :
    lead = .filler ∨ lead = .comment := by
  have hBlank : d.leads lead "" = false :=
    hLaidOut.leads_blank lead
  simp only [endingLines, List.mem_append, List.mem_cons,
    List.not_mem_nil, or_false] at hLine
  rcases hLine with (hFiller | rfl | hFooter) | rfl
  · rcases mem_fillerLines hFiller with ⟨filler, hSome, rfl⟩
    exact Or.inl
      (hLaidOut.lead_unique hLead (leads_filler hSome))
  · rw [hBlank] at hLead
    cases hLead
  · exact Or.inr (hLaidOut.footer line hFooter lead hLead)
  · rw [hBlank] at hLead
    cases hLead

------------------------------------------------------------
-- Behind Steps
------------------------------------------------------------

variable {p : List String → Prop}

theorem behindSteps_cons :
    d.BehindSteps p (line :: after) ↔
      (d.leads .stepOpen line = true → p after) ∧
        d.BehindSteps p after := by
  constructor
  · intro hBehind
    refine ⟨hBehind [] line after rfl, ?_⟩
    intro before other rest hLines
    exact hBehind (line :: before) other rest (by
      rw [hLines, List.cons_append])
  · rintro ⟨hHere, hLater⟩ before other rest hLines hOpen
    cases before with
    | nil =>
        cases hLines
        exact hHere hOpen
    | cons first before =>
        cases hLines
        exact hLater before other rest rfl hOpen

/- Lines that open no step can be passed over. -/
theorem behindSteps_append
    (hLines : ∀ line ∈ lines, d.leads .stepOpen line = false) :
    d.BehindSteps p (lines ++ after) ↔
      d.BehindSteps p after := by
  induction lines with
  | nil => rfl
  | cons first lines ih =>
      rw [List.forall_mem_cons] at hLines
      rw [List.cons_append, behindSteps_cons, ih hLines.2,
        hLines.1]
      simp

theorem behindSteps_of_forall
    (hLines : ∀ line ∈ lines, d.leads .stepOpen line = false) :
    d.BehindSteps p lines := by
  intro before line after hParts hOpen
  have hFalse := hLines line (by simp [hParts])
  rw [hFalse] at hOpen
  cases hOpen

namespace IsLaidOut

/- Inside of a step no other step is opened. -/
theorem stepOpen_innerLines
    (hLaidOut : d.IsLaidOut)
    (step : Step) :
    ∀ line ∈ d.innerLines step,
      d.leads .stepOpen line = false :=
  fun _ hLine =>
    hLaidOut.leads_eq_false (leads_of_mem_innerLines hLine)
      (by decide)

theorem stepOpen_close
    (hLaidOut : d.IsLaidOut) :
    ∀ line ∈ d.stepClose.toList.map (d.bodyLine 0),
      d.leads .stepOpen line = false := by
  intro line hLine
  rcases List.mem_map.mp hLine with ⟨close, hClose, rfl⟩
  exact hLaidOut.leads_eq_false
    (leads_stepClose (Option.mem_toList.mp hClose)) (by decide)

theorem stepOpen_skipped
    (hLaidOut : d.IsLaidOut)
    (reason : String) :
    ∀ line ∈ d.entryLines (.skipped reason),
      d.leads .stepOpen line = false := by
  intro line hLine
  rw [List.mem_singleton.mp hLine]
  exact hLaidOut.leads_eq_false (leads_comment _) (by decide)

theorem stepOpen_endingLines
    (hLaidOut : d.IsLaidOut)
    (plan : Plan) :
    ∀ line ∈ d.endingLines plan,
      d.leads .stepOpen line = false := by
  intro line hLine
  rw [Bool.eq_false_iff]
  intro hLead
  rcases hLaidOut.lead_of_mem_endingLines hLine hLead with
    hFiller | hComment
  · cases hFiller
  · cases hComment

theorem stepOpen_openingLines
    (hLaidOut : d.IsLaidOut)
    (placeholderUrl : String)
    (opening : List Operation) :
    ∀ line ∈ d.openingLines placeholderUrl opening,
      d.leads .stepOpen line = false := by
  intro line hLine
  rcases hLaidOut.leads_of_mem_openingLines hLine with
    hStatement | hComment
  · exact hLaidOut.leads_eq_false hStatement (by decide)
  · exact hLaidOut.leads_eq_false hComment (by decide)

/-
  Behind every opened step of a file the lines have a property
  if they have it behind the first line of every entry that is
  a step.
-/
theorem behindSteps_readLines
    (hLaidOut : d.IsLaidOut)
    (testName placeholderUrl : String)
    (hSteps :
      ∀ before step rest,
        plan.entries = before ++ .step step :: rest →
          p (d.innerLines step ++
            (d.stepClose.toList.map (d.bodyLine 0) ++
              (d.entriesLines rest ++ d.endingLines plan)))) :
    d.BehindSteps p
      (d.readLines testName placeholderUrl plan) := by
  -- Induction on the entries that are left.
  have hEntries :
      ∀ rest before,
        plan.entries = before ++ rest →
          d.BehindSteps p
            (d.entriesLines rest ++ d.endingLines plan) := by
    intro rest
    induction rest with
    | nil =>
        intro _ _
        exact behindSteps_of_forall
          (hLaidOut.stepOpen_endingLines plan)
    | cons entry rest ih =>
        intro before hParts
        have hRest := ih (before ++ [entry]) (by
          rw [hParts, List.append_assoc, List.singleton_append])
        have hBlank := hLaidOut.leads_blank .stepOpen
        cases entry with
        | skipped reason =>
            rw [entriesLines_cons, List.cons_append,
              List.append_assoc, behindSteps_cons,
              behindSteps_append
                (hLaidOut.stepOpen_skipped reason), hBlank]
            exact ⟨by simp, hRest⟩
        | step step =>
            rw [entriesLines_cons, entryLines_step]
            simp only [List.cons_append, List.append_assoc]
            rw [behindSteps_cons, behindSteps_cons,
              behindSteps_append
                (hLaidOut.stepOpen_innerLines step),
              behindSteps_append hLaidOut.stepOpen_close,
              hBlank]
            exact ⟨by simp, fun _ =>
              hSteps before step rest hParts, hRest⟩
  unfold readLines bodyLines
  rw [behindSteps_append (fun line hLine =>
      hLaidOut.header testName line hLine .stepOpen),
    behindSteps_append
      (hLaidOut.stepOpen_openingLines _ _)]
  exact hEntries plan.entries [] rfl

/- The lines that open steps are those of the plan's steps. -/
theorem filter_stepOpen_readLines
    (hLaidOut : d.IsLaidOut)
    (testName placeholderUrl : String)
    (plan : Plan) :
    (d.readLines testName placeholderUrl plan).filter
        (d.leads .stepOpen) =
      plan.steps.map fun step =>
        d.bodyLine 0 (d.openStep step.title) := by
  have hEntry :
      ∀ entry : Entry,
        ("" :: d.entryLines entry).filter (d.leads .stepOpen) =
          entry.step?.toList.map fun step =>
            d.bodyLine 0 (d.openStep step.title) := by
    intro entry
    rw [List.filter_cons_of_neg (by
      simp [hLaidOut.leads_blank])]
    cases entry with
    | skipped reason =>
        exact filter_leads_eq_nil (hLaidOut.stepOpen_skipped reason)
    | step step =>
        have hInner :=
          filter_leads_eq_nil (hLaidOut.stepOpen_innerLines step)
        have hClose := filter_leads_eq_nil hLaidOut.stepOpen_close
        rw [entryLines_step,
          List.filter_cons_of_pos (leads_stepOpen _),
          List.filter_append, hInner, hClose]
        rfl
  unfold readLines bodyLines
  rw [List.filter_append, List.filter_append,
    List.filter_append,
    filter_leads_eq_nil (fun line hLine =>
      hLaidOut.header testName line hLine .stepOpen),
    filter_leads_eq_nil (hLaidOut.stepOpen_openingLines _ _),
    filter_leads_eq_nil (hLaidOut.stepOpen_endingLines plan)]
  unfold entriesLines
  rw [List.filter_flatMap]
  simp only [hEntry, List.nil_append, List.append_nil]
  unfold Plan.steps
  rw [List.filterMap_eq_flatMap_toList, List.map_flatMap]

end IsLaidOut

------------------------------------------------------------
-- Steps That Are Closed
------------------------------------------------------------

/- What stands in a step closes nothing. -/
theorem closings_append
    (hWithin : ∀ line ∈ lines, d.isWithin 0 line = true)
    (hOpen : ∀ line ∈ lines, d.leads .stepOpen line = false) :
    d.closings (lines ++ after) =
      lines.filter (d.leads .stepClose) ++ d.closings after := by
  unfold closings block
  rw [List.takeWhile_append_of_pos hWithin,
    List.takeWhile_append_of_pos (by
      intro line hLine
      rw [hOpen line hLine]
      rfl),
    List.filter_append]

theorem closings_cons_of_stepOpen
    (hOpen : d.leads .stepOpen line = true) :
    d.closings (line :: after) = [] := by
  unfold closings block
  rw [List.takeWhile_cons_of_pos (isWithin_of_leads hOpen),
    List.takeWhile_cons_of_neg (by simp [hOpen])]
  rfl

theorem closings_of_forall
    (hLines :
      ∀ line ∈ lines, d.leads .stepClose line = false) :
    d.closings lines = [] := by
  apply filter_leads_eq_nil
  intro line hLine
  exact hLines line ((List.takeWhile_sublist _).mem
    ((List.takeWhile_sublist _).mem hLine))

namespace IsLaidOut

/- Behind whole entries nothing is left to be closed. -/
theorem closings_entriesLines
    (hLaidOut : d.IsLaidOut)
    (entries : List Entry)
    (plan : Plan) :
    d.closings
        (d.entriesLines entries ++ d.endingLines plan) = [] := by
  have hBlankWithin : d.isWithin 0 "" = true := rfl
  have hBlankOpen := hLaidOut.leads_blank .stepOpen
  have hBlankClose := hLaidOut.leads_blank .stepClose
  induction entries with
  | nil =>
      apply closings_of_forall
      intro line hLine
      rw [Bool.eq_false_iff]
      intro hLead
      rcases hLaidOut.lead_of_mem_endingLines hLine hLead with
        hFiller | hComment
      · cases hFiller
      · cases hComment
  | cons entry rest ih =>
      rw [entriesLines_cons, List.cons_append,
        ← List.singleton_append,
        closings_append
          (List.forall_mem_singleton.mpr hBlankWithin)
          (List.forall_mem_singleton.mpr hBlankOpen),
        List.filter_cons_of_neg (by simp [hBlankClose]),
        List.filter_nil, List.nil_append, List.append_assoc]
      cases entry with
      | step step =>
          -- The next step ends what is looked at.
          rw [entryLines_step, List.cons_append]
          exact closings_cons_of_stepOpen (leads_stepOpen _)
      | skipped reason =>
          have hComment :=
            leads_comment (d := d) ("Skipped: " ++ reason)
          have hClose :=
            hLaidOut.leads_eq_false (b := .stepClose) hComment
              (by decide)
          have hWithin :
              ∀ line ∈ d.entryLines (.skipped reason),
                d.isWithin 0 line = true :=
            List.forall_mem_singleton.mpr
              (isWithin_of_leads hComment)
          rw [closings_append hWithin
              (hLaidOut.stepOpen_skipped reason), ih,
            List.append_nil]
          exact List.filter_cons_of_neg (by simp [hClose])

/- Where steps are closed, each of them is closed once. -/
theorem closings_step
    (hLaidOut : d.IsLaidOut)
    {close : String}
    (hClose : d.stepClose = some close)
    (step : Step)
    (rest : List Entry)
    (plan : Plan) :
    d.closings
        (d.innerLines step ++
          (d.stepClose.toList.map (d.bodyLine 0) ++
            (d.entriesLines rest ++ d.endingLines plan))) =
      [d.bodyLine 0 close] := by
  have hCloses : d.leads .stepClose (d.bodyLine 0 close) = true :=
    leads_stepClose hClose
  have hInner :
      (d.innerLines step).filter (d.leads .stepClose) = [] := by
    apply filter_leads_eq_nil
    intro line hLine
    exact hLaidOut.leads_eq_false
      (leads_of_mem_innerLines hLine) (by decide)
  rw [closings_append
      (fun _ hLine =>
        isWithin_of_leads (leads_of_mem_innerLines hLine))
      (hLaidOut.stepOpen_innerLines step),
    hInner, List.nil_append, closings_append ?_
      hLaidOut.stepOpen_close,
    hLaidOut.closings_entriesLines, List.append_nil, hClose]
  · exact List.filter_cons_of_pos hCloses
  · rw [hClose]
    exact List.forall_mem_singleton.mpr
      (isWithin_of_leads hCloses)

end IsLaidOut

------------------------------------------------------------
-- Blocks That Have Statements
------------------------------------------------------------

theorem isStatement_operation
    {operation : Operation}
    (hNote : operation.isNote = false) :
    d.IsStatement (d.operation operation) := by
  rcases Call.exists_of? hNote with ⟨call, hCall⟩
  rw [d.operation_of_call hCall]
  exact .call call

theorem mem_fillerLines_of_isBare
    {filler : String}
    (hFiller : d.filler = some filler)
    (extra : Nat) :
    d.bodyLine extra filler ∈ d.fillerLines extra true := by
  unfold fillerLines
  rw [hFiller]
  exact List.mem_singleton_self _

/- Where there is a filler, every step has a statement. -/
theorem hasStatement_step
    {filler : String}
    (hFiller : d.filler = some filler)
    (step : Step)
    (after : List String) :
    d.HasStatement 1 (d.innerLines step ++ after) := by
  have hInner :
      ∃ text, d.IsStatement text ∧
        d.bodyLine 1 text ∈ d.innerLines step := by
    cases hNotes : step.operations.all Operation.isNote with
    | true =>
        refine ⟨filler, .filler hFiller, ?_⟩
        apply List.mem_append_right
        rw [hNotes]
        exact mem_fillerLines_of_isBare hFiller 1
    | false =>
        rcases List.all_eq_false.mp hNotes with
          ⟨operation, hOperation, hNote⟩
        rw [Bool.not_eq_true] at hNote
        refine ⟨_, isStatement_operation hNote, ?_⟩
        apply List.mem_append_left
        exact List.mem_map_of_mem hOperation
  rcases hInner with ⟨text, hStatement, hMem⟩
  refine ⟨text, hStatement, ?_⟩
  unfold block
  rw [List.takeWhile_append_of_pos]
  · exact List.mem_append_left _ hMem
  · intro line hLine
    rcases mem_innerLines hLine with ⟨text, rfl⟩
    exact d.isWithin_bodyLine 1 text

/- Where there is a filler, every body has a statement. -/
theorem exists_isStatement_mem_bodyLines
    {filler : String}
    (hFiller : d.filler = some filler)
    (hOpening :
      ∀ operation ∈ plan.opening, operation.isNote = false) :
    ∃ text, d.IsStatement text ∧
      d.bodyLine 0 text ∈ d.bodyLines placeholderUrl plan := by
  unfold bodyLines
  cases hOperations : plan.opening with
  | cons operation operations =>
      rw [hOperations] at hOpening
      refine ⟨_, isStatement_operation
        (hOpening operation List.mem_cons_self), ?_⟩
      apply List.mem_append_left
      exact List.mem_cons_self
  | nil =>
      cases hSteps : plan.steps with
      | nil =>
          refine ⟨filler, .filler hFiller, ?_⟩
          have hBare : isBare plan = true := by
            unfold isBare
            rw [hOperations, hSteps]
            rfl
          apply List.mem_append_right
          apply List.mem_append_right
          unfold endingLines
          rw [hBare]
          apply List.mem_append_left
          apply List.mem_append_left
          exact mem_fillerLines_of_isBare hFiller 0
      | cons step steps =>
          have hStep : step ∈ plan.steps := by
            rw [hSteps]
            exact List.mem_cons_self
          rcases List.mem_filterMap.mp hStep with
            ⟨entry, hEntry, hSome⟩
          have hEntry' : entry = .step step := by
            cases entry with
            | step other =>
                rw [Option.some_inj.mp hSome]
            | skipped reason => cases hSome
          refine ⟨_, .step step.title, ?_⟩
          apply List.mem_append_right
          apply List.mem_append_left
          apply List.mem_flatMap.mpr
          refine ⟨entry, hEntry, ?_⟩
          rw [hEntry', entryLines_step]
          exact List.mem_cons_of_mem _ List.mem_cons_self

/- Nothing behind a header leaves the body before its footer. -/
theorem IsLaidOut.isWithin_of_mem_bodyLines
    (hLaidOut : d.IsLaidOut)
    (hFooter : ∀ line ∈ d.footer, d.isWithin 0 line = true)
    (hLine : line ∈ d.bodyLines placeholderUrl plan) :
    d.isWithin 0 line = true := by
  have hBlank : d.isWithin 0 "" = true := rfl
  rcases List.mem_append.mp hLine with hOpening | hBehind
  · rcases hLaidOut.leads_of_mem_openingLines hOpening with
      hLead | hLead
    · exact isWithin_of_leads hLead
    · exact isWithin_of_leads hLead
  rcases List.mem_append.mp hBehind with hEntries | hEnding
  · rcases lead_of_mem_entriesLines hEntries with
      rfl | ⟨reason, rfl⟩ | ⟨lead, _, hLead⟩
    · exact hBlank
    · exact isWithin_of_leads (leads_comment _)
    · exact isWithin_of_leads hLead
  · simp only [endingLines, List.mem_append,
      List.mem_cons, List.not_mem_nil, or_false] at hEnding
    rcases hEnding with (hFiller | rfl | hMem) | rfl
    · rcases mem_fillerLines hFiller with ⟨filler, hSome, rfl⟩
      exact isWithin_of_leads (leads_filler hSome)
    · exact hBlank
    · exact hFooter line hMem
    · exact hBlank

theorem IsLaidOut.hasStatement_body
    (hLaidOut : d.IsLaidOut)
    {filler : String}
    (hFiller : d.filler = some filler)
    (hFooter : ∀ line ∈ d.footer, d.isWithin 0 line = true)
    (hOpening :
      ∀ operation ∈ plan.opening, operation.isNote = false)
    (placeholderUrl : String) :
    d.HasStatement 0 (d.bodyLines placeholderUrl plan) := by
  rcases exists_isStatement_mem_bodyLines hFiller hOpening with
    ⟨text, hStatement, hMem⟩
  refine ⟨text, hStatement, ?_⟩
  have hWhole :
      d.block 0 (d.bodyLines placeholderUrl plan) =
        d.bodyLines placeholderUrl plan :=
    List.takeWhile_eq_self_iff.mpr fun _ hLine =>
      hLaidOut.isWithin_of_mem_bodyLines hFooter hLine
  rw [hWhole]
  exact hMem

end Dialect

------------------------------------------------------------
-- Python
------------------------------------------------------------

/-
  Whether a text begins with something that Python reads: with
  no blank and with no remark.
-/
def startsCode (text : String) : Bool :=
  text.toList.head?.any fun c => !isBlank c && c != '#'

theorem startsCode_append
    {start : String}
    (hStart : startsCode start = true)
    (rest : String) :
    startsCode (start ++ rest) = true := by
  unfold startsCode at hStart ⊢
  rw [String.toList_append]
  cases hChars : start.toList with
  | nil =>
      rw [hChars] at hStart
      cases hStart
  | cons c cs =>
      rw [hChars] at hStart
      exact hStart

/- Python reads every statement. -/
theorem startsCode_of_isStatement
    {text : String}
    (hStatement : pythonDialect.IsStatement text) :
    startsCode text = true := by
  cases hStatement with
  | call call =>
      rcases pythonDialect_isLaidOut.exists_statement_eq call
        with ⟨rest, hRest⟩
      rw [hRest]
      exact startsCode_append (by decide) rest
  | step title =>
      unfold Dialect.openStep
      rw [String.append_assoc]
      exact startsCode_append (by decide) _
  | filler hFiller =>
      cases hFiller
      decide

end Script

open Script

------------------------------------------------------------
-- The Four Languages
------------------------------------------------------------

namespace Language

/- What is read from a file are the lines of its plan. -/
theorem parts_generate
    (language : Language)
    (settings : Plan.Settings)
    (testName : String)
    (fallback : Option String)
    (actions : List Action) :
    Text.parts
        (generate settings language testName fallback actions) =
      language.dialect.readLines testName
        settings.placeholderUrl
        (Plan.build settings fallback actions) := by
  rw [← Dialect.fileLines_append_blank]
  apply Text.parts_unlines
  intro line hLine
  exact (language.avoids_isBreak_fileLines testName
    settings.placeholderUrl _ line hLine).lineFeed_not_mem

/-
  The blocks of every test, as they are found by reading its
  lines. The steps that are opened are those of the plan. In
  Python the body of the test and every opened step have a
  statement that stands just as far in as its block, and no
  statement is a remark. In the other languages every opened
  step is closed exactly once before the next one is opened
  and before the body ends.
-/
theorem blocks_generate
    (settings : Plan.Settings)
    (testName : String)
    (fallback : Option String)
    (actions : List Action) :
    (∀ language : Language,
        (Text.parts (generate settings language testName
              fallback actions)).filter
            (language.dialect.leads .stepOpen) =
          (Plan.build settings fallback actions).steps.map
            fun step =>
              language.dialect.bodyLine 0
                (language.dialect.openStep step.title)) ∧
      (∃ body,
        Text.parts (generate settings python testName
            fallback actions) =
          python.dialect.header testName ++ body ∧
        (python.dialect.header testName).getLast? =
          some ("def " ++ snakeName testName ++
            "(page: Page) -> None:") ∧
        python.dialect.HasStatement 0 body) ∧
      python.dialect.BehindSteps
        (python.dialect.HasStatement 1)
        (Text.parts (generate settings python testName
          fallback actions)) ∧
      (∀ text, python.dialect.IsStatement text →
        startsCode text = true) ∧
      ∀ language ∈ [javaScript, typeScript, java],
        ∃ close,
          language.dialect.stepClose = some close ∧
            language.dialect.BehindSteps
              (fun after =>
                language.dialect.closings after =
                  [language.dialect.bodyLine 0 close])
              (Text.parts (generate settings language
                testName fallback actions)) := by
  have hLaidOut := python.dialect_isLaidOut
  have hFiller : python.dialect.filler = some "pass" := rfl
  refine ⟨?_, ?_, ?_, ?_, ?_⟩
  · intro language
    rw [parts_generate]
    exact language.dialect_isLaidOut.filter_stepOpen_readLines
      testName _ _
  · refine ⟨_, parts_generate python _ _ _ _, ?_, ?_⟩
    · rfl
    · exact hLaidOut.hasStatement_body hFiller
        (by decide +kernel)
        (fun _ => Plan.isNote_of_mem_opening_build)
        settings.placeholderUrl
  · rw [parts_generate]
    refine hLaidOut.behindSteps_readLines testName _ ?_
    intro _ step _ _
    exact Dialect.hasStatement_step hFiller step _
  · exact fun _ => startsCode_of_isStatement
  · intro language hLanguage
    have hClose :
        ∃ close, language.dialect.stepClose = some close := by
      cases language with
      | python => simp at hLanguage
      | _ => exact ⟨_, rfl⟩
    rcases hClose with ⟨close, hClose⟩
    refine ⟨close, hClose, ?_⟩
    rw [parts_generate]
    have hLaidOut := language.dialect_isLaidOut
    refine hLaidOut.behindSteps_readLines testName _ ?_
    intro _ step rest _
    exact hLaidOut.closings_step hClose step rest _

end Language

end Clickstream
