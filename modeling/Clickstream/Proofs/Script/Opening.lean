import Clickstream.Proofs.Script.Blocks

/-
  Openings: where a test starts. It goes to the first address
  of its recording, and to the address that is given with the
  recording only where none was recorded. If the address it
  should go to is blank it goes nowhere, and a remark asks for
  an address instead.

  Key definitions:
    * `Plan.firstAddress`, `Plan.startsBlank`
    * `Dialect.placeholderRemark`

  Key theorems:
    * `Plan.firstAddress_clean`
    * `Plan.head?_opening_build`
    * `Language.placeholderRemark_mem_generate`
    * `Language.opening_generate`
-/

namespace Clickstream

------------------------------------------------------------
-- First Addresses
------------------------------------------------------------

namespace Plan

/- The first address in a recording. -/
def firstAddress (actions : List Action) : Option String :=
  actions.findSome? Action.address?

/- Whether the first address in a recording is a blank one. -/
def startsBlank (actions : List Action) : Bool :=
  (firstAddress actions).any Text.isBlankText

variable {settings : Settings}
variable {action : Action}
variable {rest : List Action}
variable {url : String}

theorem firstAddress_cons_of_some
    (hAddress : action.address? = some url) :
    firstAddress (action :: rest) = some url := by
  unfold firstAddress
  rw [List.findSome?_cons, hAddress]

theorem firstAddress_cons_of_none
    (hAddress : action.address? = none) :
    firstAddress (action :: rest) = firstAddress rest := by
  unfold firstAddress
  rw [List.findSome?_cons, hAddress]

/-
  As long as no place is known, the next navigation that goes
  to an address is no noise.
-/
theorem Sieve.firstAddress_keep
    {sieve : Sieve}
    (hLocation : sieve.location = none)
    (settings : Settings)
    (actions : List Action) :
    firstAddress (sieve.keep settings actions) =
      firstAddress actions := by
  induction actions generalizing sieve with
  | nil => rfl
  | cons action rest ih =>
      unfold keep
      dsimp only
      cases hAddress : action.address? with
      | some url =>
          have hLeaves : sieve.location ≠ some url := by
            simp [hLocation]
          have hPasses : sieve.passes settings action = true := by
            rw [passes_of_address hAddress]
            exact (isSignal_of_address hAddress).mpr hLeaves
          rw [if_pos hPasses, firstAddress_cons_of_some hAddress,
            firstAddress_cons_of_some hAddress]
      | none =>
          have hNext :
              (sieve.next settings action).location = none :=
            (location_next_of_none hAddress).trans hLocation
          rw [firstAddress_cons_of_none hAddress, ← ih hNext]
          split
          · exact firstAddress_cons_of_none hAddress
          · rfl

theorem firstAddress_anchor (actions : List Action) :
    firstAddress (anchor actions) = firstAddress actions := by
  induction actions with
  | nil => rfl
  | cons action rest ih =>
      unfold anchor at ih ⊢
      rw [List.dropWhile_cons]
      split
      · rename_i hAddress
        have hNone := Option.isNone_iff_eq_none.mp hAddress
        rw [firstAddress_cons_of_none hNone, ih]
      · rfl

/- Cleaning a recording leaves its first address. -/
theorem firstAddress_clean
    (settings : Settings)
    (actions : List Action) :
    firstAddress (clean settings actions) =
      firstAddress actions := by
  unfold clean prefilter
  rw [firstAddress_anchor, Sieve.firstAddress_keep rfl]

/- The pages of a recording begin at its first address. -/
theorem startUrlOf_split
    (actions : List Action)
    (fallback : Option String) :
    startUrlOf (Page.split actions) fallback =
      ((firstAddress actions).or fallback).filter
        fun url => !Text.isBlankText url := by
  induction actions with
  | nil => rfl
  | cons action rest ih =>
      unfold Page.split
      cases hAddress : action.address? with
      | some url =>
          rw [firstAddress_cons_of_some hAddress]
          exact startUrlOf_splitAt url rest fallback
      | none =>
          rw [firstAddress_cons_of_none hAddress]
          exact ih

/- A test is opened where it starts, or not at all. -/
theorem head?_opening
    (settings : Settings)
    (startUrl : Option String)
    (entries : List Entry) :
    (settings.opening startUrl entries).head? =
      startUrl.map .goto := by
  cases startUrl <;> rfl

/-
  What a test is opened with: the first address of the whole
  recording, or else the one that is given with it, unless the
  one of them that counts is blank.
-/
theorem head?_opening_build
    (settings : Settings)
    (fallback : Option String)
    (actions : List Action) :
    (build settings fallback actions).opening.head? =
      (((firstAddress actions).or fallback).filter
        fun url => !Text.isBlankText url).map .goto := by
  unfold build
  dsimp only
  rw [head?_opening, startUrlOf_split, firstAddress_clean]

end Plan

------------------------------------------------------------
-- Placeholders
------------------------------------------------------------

namespace Script

open Text

/- The first character of a text that is parted stays. -/
theorem head?_partUnicode (cs : List Char) :
    (partUnicode cs).head? = cs.head? := by
  cases cs using partUnicode.induct with
  | case1 rest => rfl
  | case2 c rest hPlain =>
      rw [partUnicode]
      · rfl
      · exact hPlain
  | case3 => rfl

namespace Dialect

/- The remark in a test that knows no address to start at. -/
def placeholderRemark (d : Dialect) : String :=
  d.bodyLine 0 (d.comment
    "No start URL was recorded; replace the placeholder below")

variable {d : Dialect}
variable {line : String}

/- Remarks differ that begin with different characters. -/
theorem head?_of_comment_eq
    (hGuard : ∀ cs, (d.guardComment cs).head? = cs.head?)
    {s t : String}
    (hComment : d.comment s = d.comment t) :
    (oneLine s.toList).head? = (oneLine t.toList).head? := by
  unfold comment at hComment
  rw [String.append_right_inj, String.ofList_inj] at hComment
  rw [← hGuard (oneLine s.toList), hComment, hGuard]

/-
  Only a test that is not opened has the remark: the other
  remarks in the body say what was skipped or end the test.
-/
theorem IsLaidOut.placeholderRemark_mem_readLines
    (hLaidOut : d.IsLaidOut)
    (hGuard : ∀ cs, (d.guardComment cs).head? = cs.head?)
    (hFooter : d.placeholderRemark ∉ d.footer)
    {plan : Plan}
    (hOpening :
      ∀ operation ∈ plan.opening, operation.isNote = false)
    (testName placeholderUrl : String) :
    d.placeholderRemark ∈
        d.readLines testName placeholderUrl plan ↔
      plan.opening = [] := by
  have hLead : d.leads .comment d.placeholderRemark = true :=
    leads_comment _
  constructor
  · intro hMem
    by_contra hSome
    rcases List.mem_append.mp hMem with hHeader | hBody
    · have hNone :=
        hLaidOut.header testName _ hHeader .comment
      rw [hLead] at hNone
      cases hNone
    rcases List.mem_append.mp hBody with hOpen | hBehind
    · unfold openingLines at hOpen
      rw [if_neg (by simpa using hSome)] at hOpen
      rcases List.mem_map.mp hOpen with
        ⟨operation, hOperation, hSame⟩
      have hStatement := hLaidOut.leads_operation
        (hOpening operation hOperation)
      rw [hSame] at hStatement
      cases hLaidOut.lead_unique hStatement hLead
    rcases List.mem_append.mp hBehind with hEntries | hEnding
    · rcases lead_of_mem_entriesLines hEntries with
        hBlank | ⟨reason, hSkipped⟩ | ⟨lead, hOther, hSame⟩
      · rw [hBlank, hLaidOut.leads_blank] at hLead
        cases hLead
      · have hComment :=
          (String.append_right_inj _).mp hSkipped
        have hFirst := head?_of_comment_eq hGuard hComment
        rw [String.toList_append] at hFirst
        cases hFirst
      · exact hOther (hLaidOut.lead_unique hSame hLead)
    · simp only [endingLines, List.mem_append,
        List.mem_cons, List.not_mem_nil, or_false] at hEnding
      rcases hEnding with (hFiller | hBlank | hMem) | hBlank
      · rcases mem_fillerLines hFiller with
          ⟨filler, hSome, hSame⟩
        have hOther := leads_filler (d := d) hSome
        rw [← hSame] at hOther
        cases hLaidOut.lead_unique hOther hLead
      · rw [hBlank, hLaidOut.leads_blank] at hLead
        cases hLead
      · exact hFooter hMem
      · rw [hBlank, hLaidOut.leads_blank] at hLead
        cases hLead
  · intro hNone
    apply List.mem_append_right
    apply List.mem_append_left
    unfold openingLines
    rw [hNone]
    exact List.mem_cons_self

end Dialect

end Script

open Script

------------------------------------------------------------
-- The Four Languages
------------------------------------------------------------

namespace Language

theorem head?_guardComment
    (language : Language)
    (cs : List Char) :
    (language.dialect.guardComment cs).head? = cs.head? := by
  cases language with
  | java => exact head?_partUnicode cs
  | _ => rfl

/- A file asks for an address just if its test is not opened. -/
theorem placeholderRemark_mem_generate
    (language : Language)
    (settings : Plan.Settings)
    (testName : String)
    (fallback : Option String)
    (actions : List Action) :
    language.dialect.placeholderRemark ∈
        Text.parts (generate settings language testName
          fallback actions) ↔
      (Plan.build settings fallback actions).opening = [] := by
  have hFooter :
      language.dialect.placeholderRemark ∉
        language.dialect.footer := by
    cases language <;> decide +kernel
  rw [parts_generate]
  exact language.dialect_isLaidOut.placeholderRemark_mem_readLines
    language.head?_guardComment hFooter
    (fun _ => Plan.isNote_of_mem_opening_build) testName _

/-
  A test for which an address is given is opened at an address
  that is not blank, and its file does not ask for one, unless
  the first address of its recording is blank. In that case
  the given address is not used: it stands in for a recording
  without any address only.
-/
theorem opening_generate
    (settings : Plan.Settings)
    {fallback : String}
    (hFallback : Text.isBlankText fallback = false)
    (actions : List Action) :
    (Plan.startsBlank actions = false →
      (∃ url rest,
        (Plan.build settings (some fallback) actions).opening =
            .goto url :: rest ∧
          Text.isBlankText url = false ∧
          url = (Plan.firstAddress actions).getD fallback) ∧
      ∀ (language : Language) (testName : String),
        language.dialect.placeholderRemark ∉
          Text.parts (generate settings language testName
            (some fallback) actions)) ∧
      (Plan.startsBlank actions = true →
        (Plan.build settings (some fallback) actions).opening =
            [] ∧
          ∀ (language : Language) (testName : String),
            language.dialect.placeholderRemark ∈
              Text.parts (generate settings language testName
                (some fallback) actions)) := by
  have hHead :=
    Plan.head?_opening_build settings (some fallback) actions
  constructor
  · intro hStarts
    have hUrl :
        Text.isBlankText
            ((Plan.firstAddress actions).getD fallback) =
          false := by
      unfold Plan.startsBlank at hStarts
      cases hFirst : Plan.firstAddress actions with
      | none => exact hFallback
      | some url =>
          rw [hFirst] at hStarts
          exact hStarts
    have hOr :
        (Plan.firstAddress actions).or (some fallback) =
          some ((Plan.firstAddress actions).getD fallback) := by
      cases Plan.firstAddress actions <;> rfl
    rw [hOr, Option.filter_some, if_pos (by simp [hUrl]),
      Option.map_some] at hHead
    rcases List.head?_eq_some_iff.mp hHead with
      ⟨rest, hOpening⟩
    refine ⟨⟨_, rest, hOpening, hUrl, rfl⟩, ?_⟩
    intro language testName hMem
    have hNone :=
      (language.placeholderRemark_mem_generate settings testName
        (some fallback) actions).mp hMem
    rw [hNone] at hOpening
    cases hOpening
  · intro hStarts
    rcases (Option.any_eq_true _ _).mp hStarts with
      ⟨url, hFirst, hBlank⟩
    rw [hFirst, Option.some_or, Option.filter_some,
      if_neg (by simp [hBlank]), Option.map_none,
      List.head?_eq_none_iff] at hHead
    refine ⟨hHead, ?_⟩
    intro language testName
    exact (language.placeholderRemark_mem_generate settings
      testName (some fallback) actions).mpr hHead

/- A click on a page that was open when the recording began. -/
def shopClick : List Action :=
  [{ kind := .click
     selector := some (Selector.uniqueId "buy")
     timestamp := 5 }]

/- Without a navigation the address that is given is opened. -/
theorem opening_generate_shopClick :
    Text.isBlankText "https://start.test" = false ∧
      Plan.startsBlank shopClick = false ∧
      (∃ url rest,
        (Plan.build {} (some "https://start.test")
            shopClick).opening = .goto url :: rest ∧
          Text.isBlankText url = false ∧
          url =
            (Plan.firstAddress shopClick).getD
              "https://start.test") ∧
      ∀ (language : Language) (testName : String),
        language.dialect.placeholderRemark ∉
          Text.parts (generate {} language testName
            (some "https://start.test") shopClick) := by
  have hFallback :
      Text.isBlankText "https://start.test" = false := by
    decide
  have hStarts : Plan.startsBlank shopClick = false := by
    decide
  exact ⟨hFallback, hStarts,
    (opening_generate {} hFallback shopClick).1 hStarts⟩

/- A recording whose first navigation goes to a blank address. -/
def blankStart : List Action :=
  [Action.navigate " " none 0]

/-
  The address that is given does not stand in for an address
  that was recorded and is blank.
-/
theorem opening_blankStart :
    Text.isBlankText "https://start.test" = false ∧
      (Plan.build {} (some "https://start.test")
        blankStart).opening = [] ∧
      python.dialect.placeholderRemark ∈
        Text.parts (generate {} python "start"
          (some "https://start.test") blankStart) := by
  have hOpening :
      (Plan.build {} (some "https://start.test")
        blankStart).opening = [] := by
    decide
  refine ⟨by decide, hOpening, ?_⟩
  exact (python.placeholderRemark_mem_generate {} "start"
    (some "https://start.test") blankStart).mpr hOpening

end Language

end Clickstream
