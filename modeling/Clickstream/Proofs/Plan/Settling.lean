import Clickstream.Proofs.Plan.Deeds

/-
  Settling: where a test waits for a page. It waits behind
  every address that something follows and at the end of every
  step before another page, and otherwise only where a user
  waited without saying what for.

  Key definitions:
    * `Stretch`, `Plan.stretches`
    * `Stretch.Settles`: waits behind addresses
    * `Entry.Awaits`: waits before pages
    * `Plan.isPause`: waiting for nothing in particular
    * `Plan.followedGotos`

  Key theorems:
    * `flatMap_actions_splitAt`
    * `isChain_allEntries`
    * `waitsOf_allEntries`
    * `settles_build`
-/

namespace Clickstream

------------------------------------------------------------
-- Waits and Addresses
------------------------------------------------------------

/- Whether an operation opens an address. -/
def Operation.isGoto : Operation → Bool
  | .goto _ => true
  | _ => false

/- Whether an entry is a step. -/
def Entry.isStep (entry : Entry) : Bool :=
  entry.step?.isSome

/- Whether an entry opens an address. -/
def Entry.Opens (entry : Entry) : Prop :=
  ∃ url, Operation.goto url ∈ entry.operations

/-
  What a test does in one place, and the entries that come
  after it.
-/
structure Stretch where
  operations : List Operation
  following : List Entry

/- Whether anything comes after a stretch. -/
def Stretch.isFollowed (stretch : Stretch) : Bool :=
  !stretch.following.isEmpty

/-
  Whether each address on a stretch has the wait for a page
  right behind it, if an entry comes after the stretch, and
  has not if none does.
-/
def Stretch.Settles
    (settings : Plan.Settings)
    (stretch : Stretch) : Prop :=
  ∀ before url after,
    stretch.operations = before ++ .goto url :: after →
      (after.head? = some (.settleWait settings.settleWait) ↔
        stretch.following ≠ [])

/-
  Whether an entry ends in the wait for a page, if it is a
  step and the entry after it opens an address.
-/
def Entry.Awaits
    (settings : Plan.Settings)
    (entry next : Entry) : Prop :=
  next.Opens →
    ∀ step, entry = .step step →
      step.operations.getLast? =
        some (.settleWait settings.settleWait)

namespace Plan

/- The stretches of entries, one for each. -/
def stretchesOf : List Entry → List Stretch
  | [] => []
  | entry :: rest =>
      ⟨entry.operations, rest⟩ :: stretchesOf rest

/- The stretches of a plan: its opening and its entries. -/
def stretches (plan : Plan) : List Stretch :=
  ⟨plan.opening, plan.entries⟩ :: stretchesOf plan.entries

/- How many addresses are opened with something after them. -/
def followedGotos (stretches : List Stretch) : Nat :=
  ((stretches.filter Stretch.isFollowed).flatMap
    Stretch.operations).countP Operation.isGoto

/- How many waits there are in entries. -/
def waitsOf (entries : List Entry) : Nat :=
  (entries.flatMap Entry.operations).countP Operation.isWait

/- Whether the last of some entries is a step. -/
def endsInStep (entries : List Entry) : Bool :=
  entries.getLast?.any Entry.isStep

/- Whether a user waited without saying what for. -/
def isPause (action : Action) : Bool :=
  action.kind = .wait && action.selector.isNone

variable {settings : Settings}
variable {action : Action}
variable {actions : List Action}
variable {entry : Entry}
variable {entries rest : List Entry}
variable {operation : Operation}

------------------------------------------------------------
-- Single Actions
------------------------------------------------------------

/- A pause is a wait and nothing else. -/
theorem operationsOrNote_of_isPause
    (hPause : isPause action = true) :
    settings.operationsOrNote action = [settings.wait] := by
  simp only [isPause, Bool.and_eq_true, decide_eq_true_eq,
    Option.isNone_iff_eq_none] at hPause
  unfold Settings.operationsOrNote Settings.stepFor waitStep
    Target.of?
  rw [hPause.1, hPause.2]
  rfl

/- What stands for an action is a note or part of a course. -/
theorem isNote_or_exists_course
    (hOperation :
      operation ∈ settings.operationsOrNote action) :
    (∃ text, operation = .note text) ∨
      ∃ operations,
        Step.Course action operations ∧
          operation ∈ operations := by
  cases hStep : settings.stepFor action with
  | error refusal =>
      rw [operationsOrNote_of_error hStep] at hOperation
      exact Or.inl ⟨_, List.mem_singleton.mp hOperation⟩
  | ok step =>
      rw [operationsOrNote_of_ok hStep] at hOperation
      exact Or.inr
        ⟨_, Settings.course_of_stepFor hStep, hOperation⟩

/- Whatever else is done does not wait. -/
theorem isWait_of_not_isPause
    (hPause : ¬ isPause action = true)
    (hOperation :
      operation ∈ settings.operationsOrNote action) :
    operation.isWait = false := by
  rcases isNote_or_exists_course hOperation with
    ⟨text, rfl⟩ | ⟨operations, hCourse, hMem⟩
  · rfl
  cases hCourse with
  | element hTarget hOn =>
      have hOn := hOn operation hMem
      cases operation with
      | settleWait ms => cases hOn
      | _ => rfl
  | wait hKind hNone =>
      have hSelector : action.selector = none :=
        Option.map_eq_none_iff.mp hNone
      exact absurd (by simp [isPause, hKind, hSelector]) hPause
  | _ =>
      rw [List.mem_singleton.mp hMem]
      rfl

theorem countP_isWait_operationsOrNote
    (settings : Settings)
    (action : Action) :
    (settings.operationsOrNote action).countP
        Operation.isWait =
      if isPause action then 1 else 0 := by
  split
  · rename_i hPause
    rw [operationsOrNote_of_isPause hPause]
    rfl
  · rename_i hPause
    refine List.countP_eq_zero.mpr ?_
    intro operation hOperation
    simp [isWait_of_not_isPause hPause hOperation]

/- Only a navigation to an address opens one. -/
theorem isGoto_of_address?_eq_none
    (hAddress : action.address? = none)
    (hOperation :
      operation ∈ settings.operationsOrNote action) :
    operation.isGoto = false := by
  rcases isNote_or_exists_course hOperation with
    ⟨text, rfl⟩ | ⟨operations, hCourse, hMem⟩
  · rfl
  cases hCourse with
  | element hTarget hOn =>
      have hOn := hOn operation hMem
      cases operation with
      | goto url => cases hOn
      | _ => rfl
  | address hKind hUrl =>
      simp [Action.address?, Action.isNavigation, hKind, hUrl]
        at hAddress
  | _ =>
      rw [List.mem_singleton.mp hMem]
      rfl

/- The waits of a page are the pauses on it. -/
theorem waitsOf_entries
    (settings : Settings)
    (actions : List Action) :
    waitsOf (settings.entries actions) =
      actions.countP isPause := by
  unfold waitsOf
  rw [Settings.operations_entries]
  induction actions with
  | nil => rfl
  | cons action actions ih =>
      rw [List.flatMap_cons, List.countP_append, ih,
        countP_isWait_operationsOrNote, List.countP_cons,
        Nat.add_comm]

------------------------------------------------------------
-- Entries That Open Nothing
------------------------------------------------------------

/- Whether an entry opens no address. -/
def IsStill (entry : Entry) : Prop :=
  ∀ operation ∈ entry.operations, operation.isGoto = false

theorem not_opens_of_isStill
    (hStill : IsStill entry) :
    ¬ entry.Opens := by
  rintro ⟨url, hGoto⟩
  cases hStill _ hGoto

theorem isStill_of_mem_entries
    (hActions : ∀ action ∈ actions, action.address? = none)
    (hEntry : entry ∈ settings.entries actions) :
    IsStill entry := by
  intro operation hOperation
  have hMem :
      operation ∈
        (settings.entries actions).flatMap Entry.operations :=
    List.mem_flatMap.mpr ⟨entry, hEntry, hOperation⟩
  rw [Settings.operations_entries] at hMem
  rcases List.mem_flatMap.mp hMem with ⟨action, hAction, hMem⟩
  exact isGoto_of_address?_eq_none (hActions action hAction)
    hMem

/- A wait at the end of a step opens nothing. -/
theorem isStill_extend
    (hStill : IsStill entry) :
    IsStill (Settings.extend settings.wait entry) := by
  intro operation hOperation
  cases entry with
  | skipped reason => exact hStill operation hOperation
  | step s =>
      rcases List.mem_append.mp hOperation with
        hBefore | hWait
      · exact hStill operation hBefore
      · rw [List.mem_singleton.mp hWait]
        rfl

theorem isStill_of_mem_settled
    (hStill : ∀ entry ∈ entries, IsStill entry)
    (hEntry : entry ∈ settings.settled entries) :
    IsStill entry := by
  induction entries with
  | nil => cases hEntry
  | cons first rest ih =>
      cases rest with
      | nil =>
          unfold Settings.settled at hEntry
          rw [List.mem_singleton.mp hEntry]
          exact isStill_extend (hStill first (by simp))
      | cons second rest =>
          unfold Settings.settled at hEntry
          rcases List.mem_cons.mp hEntry with rfl | hLater
          · exact hStill entry (by simp)
          · refine ih (fun e he => hStill e ?_) hLater
            exact List.mem_cons_of_mem _ he

theorem isStill_of_mem_pageEntries
    {page : Page}
    {others : List Page}
    (hPage :
      ∀ action ∈ page.actions, action.address? = none)
    (hEntry : entry ∈ settings.pageEntries page others) :
    IsStill entry := by
  unfold Settings.pageEntries at hEntry
  split at hEntry
  · exact isStill_of_mem_entries hPage hEntry
  · exact isStill_of_mem_settled
      (fun _ => isStill_of_mem_entries hPage) hEntry

/- Where nothing is opened, nothing has to settle. -/
theorem settles_append
    (hStill : ∀ entry ∈ entries, IsStill entry)
    (hRest :
      ∀ stretch ∈ stretchesOf rest, stretch.Settles settings) :
    ∀ stretch ∈ stretchesOf (entries ++ rest),
      stretch.Settles settings := by
  induction entries with
  | nil => exact hRest
  | cons entry entries ih =>
      intro stretch hStretch
      rcases List.mem_cons.mp hStretch with rfl | hStretch
      · intro before url after hOperations
        have hGoto : Operation.goto url ∈ entry.operations := by
          rw [show entry.operations = _ from hOperations]
          simp
        cases hStill entry (by simp) _ hGoto
      · refine ih (fun e he => hStill e ?_) stretch hStretch
        exact List.mem_cons_of_mem _ he

/- Stretches without addresses do not count. -/
theorem followedGotos_append
    (hStill : ∀ entry ∈ entries, IsStill entry) :
    followedGotos (stretchesOf (entries ++ rest)) =
      followedGotos (stretchesOf rest) := by
  induction entries with
  | nil => rfl
  | cons entry entries ih =>
      have hRest :=
        ih fun e he => hStill e (List.mem_cons_of_mem _ he)
      have hNone :
          entry.operations.countP Operation.isGoto = 0 := by
        refine List.countP_eq_zero.mpr ?_
        intro operation hOperation
        simp [hStill entry (by simp) operation hOperation]
      rw [← hRest]
      unfold followedGotos
      rw [List.cons_append, stretchesOf, List.filter_cons]
      split
      · rw [List.flatMap_cons, List.countP_append, hNone,
          Nat.zero_add]
      · rfl

/- Where nothing is opened, nothing is awaited. -/
theorem isChain_of_isStill
    (hStill : ∀ entry ∈ entries, IsStill entry) :
    entries.IsChain (Entry.Awaits settings) := by
  refine (List.pairwise_of_forall_mem_list ?_).isChain
  intro entry _ next hNext hOpens
  exact absurd hOpens
    (not_opens_of_isStill (hStill next hNext))

------------------------------------------------------------
-- Steps Before a Page
------------------------------------------------------------

theorem waitsOf_append (before after : List Entry) :
    waitsOf (before ++ after) =
      waitsOf before + waitsOf after := by
  unfold waitsOf
  rw [List.flatMap_append, List.countP_append]

theorem waitsOf_cons
    (entry : Entry)
    (entries : List Entry) :
    waitsOf (entry :: entries) =
      entry.operations.countP Operation.isWait +
        waitsOf entries := by
  unfold waitsOf
  rw [List.flatMap_cons, List.countP_append]

/- Only the last entry waits, and only if it is a step. -/
theorem waitsOf_settled
    (settings : Settings)
    (entries : List Entry) :
    waitsOf (settings.settled entries) =
      waitsOf entries +
        if endsInStep entries then 1 else 0 := by
  induction entries with
  | nil => rfl
  | cons entry rest ih =>
      cases rest with
      | nil =>
          cases entry with
          | skipped reason => rfl
          | step s =>
              unfold Settings.settled Settings.extend
              rw [waitsOf_cons, waitsOf_cons]
              dsimp only [Entry.operations]
              rw [List.countP_append, Nat.add_right_comm]
              rfl
      | cons second rest =>
          have hLast :
              endsInStep (entry :: second :: rest) =
                endsInStep (second :: rest) := rfl
          unfold Settings.settled
          rw [waitsOf_cons, ih, waitsOf_cons entry, hLast,
            Nat.add_assoc]

/- The last step of settled entries ends in a wait. -/
theorem getLast?_operations_of_settled
    {s : Step}
    (hLast :
      (settings.settled entries).getLast? = some (.step s)) :
    s.operations.getLast? = some settings.wait := by
  induction entries with
  | nil => cases hLast
  | cons entry rest ih =>
      cases rest with
      | nil =>
          cases entry with
          | skipped reason => cases hLast
          | step first =>
              cases hLast
              exact List.getLast?_concat
      | cons second rest =>
          unfold Settings.settled at hLast
          cases hSettled :
              settings.settled (second :: rest) with
          | nil =>
              cases rest <;>
                simp [Settings.settled] at hSettled
          | cons e es =>
              rw [hSettled] at ih hLast
              rw [List.getLast?_cons_cons] at hLast
              exact ih hLast

/- A page has its pauses, and one wait before the next page. -/
theorem waitsOf_pageEntries
    (settings : Settings)
    (page : Page)
    (others : List Page) :
    waitsOf (settings.pageEntries page others) =
      page.actions.countP isPause +
        if !others.isEmpty &&
            endsInStep (settings.entries page.actions)
        then 1 else 0 := by
  unfold Settings.pageEntries
  cases others with
  | nil => exact waitsOf_entries settings page.actions
  | cons next others =>
      rw [if_neg (by simp), waitsOf_settled, waitsOf_entries]
      rfl

------------------------------------------------------------
-- Opened Addresses
------------------------------------------------------------

/- An address that is opened before some entries settles. -/
theorem settles_goto
    (settings : Settings)
    (url : String)
    (following : List Entry) :
    Stretch.Settles settings
      ⟨.goto url :: settings.waitBefore following,
        following⟩ := by
  intro before other after hOperations
  have hAfter : after = settings.waitBefore following := by
    cases before with
    | nil => exact (List.cons.inj hOperations).2.symm
    | cons first before =>
        have hRest := (List.cons.inj hOperations).2
        have hGoto :
            Operation.goto other ∈
              settings.waitBefore following := by
          rw [hRest]
          simp
        unfold Settings.waitBefore at hGoto
        split at hGoto
        · cases hGoto
        · cases List.mem_singleton.mp hGoto
  rw [hAfter]
  unfold Settings.waitBefore
  cases following with
  | nil => simp
  | cons entry rest => simp [Settings.wait]

/- It counts as much as it waits. -/
theorem followedGotos_goto
    (settings : Settings)
    (url : String)
    (following : List Entry)
    (more : List Stretch) :
    followedGotos
        (⟨.goto url :: settings.waitBefore following,
          following⟩ :: more) =
      (Operation.goto url ::
          settings.waitBefore following).countP
        Operation.isWait + followedGotos more := by
  unfold followedGotos
  cases following with
  | nil =>
      rw [List.filter_cons_of_neg Bool.false_ne_true]
      exact (Nat.zero_add _).symm
  | cons entry rest =>
      rw [List.filter_cons_of_pos rfl, List.flatMap_cons,
        List.countP_append]
      rfl

------------------------------------------------------------
-- Pages
------------------------------------------------------------

/- On the pages of a recording is all that opens no address. -/
theorem flatMap_actions_splitAt
    (url : String)
    (actions : List Action) :
    (Page.splitAt url actions).flatMap Page.actions =
      actions.filter (fun action => action.address?.isNone) := by
  induction actions generalizing url with
  | nil => rfl
  | cons action rest ih =>
      unfold Page.splitAt
      cases hAddress : action.address? with
      | some next =>
          rw [List.filter_cons_of_neg (by simp [hAddress])]
          dsimp only
          split
          · exact ih url
          · rw [List.flatMap_cons, ih next, List.nil_append]
      | none =>
          rw [List.filter_cons_of_pos (by simp [hAddress])]
          rcases exists_splitAt_eq_cons url rest with
            ⟨page, others, hSplit, _⟩
          have hRest := ih url
          dsimp only
          rw [hSplit] at hRest ⊢
          rw [← hRest]
          rfl

/- Whether no action on any of these pages opens an address. -/
def ArePlain (pages : List Page) : Prop :=
  ∀ page ∈ pages, ∀ action ∈ page.actions,
    action.address? = none

theorem arePlain_splitAt
    (url : String)
    (actions : List Action) :
    ArePlain (Page.splitAt url actions) := by
  intro page hPage action hAction
  have hMem :
      action ∈
        (Page.splitAt url actions).flatMap Page.actions :=
    List.mem_flatMap.mpr ⟨page, hPage, hAction⟩
  rw [flatMap_actions_splitAt] at hMem
  exact Option.isNone_iff_eq_none.mp (List.mem_filter.mp hMem).2

/- A pause opens no address. -/
theorem address?_of_isPause
    (hPause : isPause action = true) :
    action.address? = none := by
  simp only [isPause, Bool.and_eq_true,
    decide_eq_true_eq] at hPause
  simp [Action.address?, Action.isNavigation, hPause.1]

/-
  The pages of a cleaned recording hold all of its pauses and
  no address.
-/
theorem split_clean
    (settings : Settings)
    (actions : List Action) :
    ArePlain (Page.split (clean settings actions)) ∧
      ((Page.split (clean settings actions)).flatMap
          Page.actions).countP isPause =
        (clean settings actions).countP isPause := by
  cases hClean : clean settings actions with
  | nil => exact ⟨fun _ hPage => (List.not_mem_nil hPage).elim, rfl⟩
  | cons first rest =>
      rcases address?_of_clean_eq_cons hClean with
        ⟨url, hAddress⟩
      have hSplit :
          Page.split (first :: rest) =
            Page.splitAt url rest := by
        unfold Page.split
        rw [hAddress]
      have hFirst : ¬ isPause first = true := by
        intro hPause
        rw [address?_of_isPause hPause] at hAddress
        cases hAddress
      have hPauses :
          (fun action : Action =>
              isPause action && action.address?.isNone) =
            isPause := by
        funext action
        cases hPause : isPause action with
        | false => rfl
        | true => simp [address?_of_isPause hPause]
      rw [hSplit, flatMap_actions_splitAt, List.countP_filter,
        hPauses, List.countP_cons_of_neg hFirst]
      exact ⟨arePlain_splitAt url rest, rfl⟩

/- How many pages before the last end in a step. -/
def stops
    (settings : Settings)
    (pages : List Page) : Nat :=
  pages.dropLast.countP fun page =>
    endsInStep (settings.entries page.actions)

theorem stops_cons
    (settings : Settings)
    (page : Page)
    (others : List Page) :
    stops settings (page :: others) =
      (if !others.isEmpty &&
          endsInStep (settings.entries page.actions)
        then 1 else 0) + stops settings others := by
  unfold stops
  cases others with
  | nil => rfl
  | cons next others =>
      rw [List.dropLast_cons_cons, List.countP_cons,
        Nat.add_comm]
      rfl

/- A later page is opened, and its entries follow. -/
theorem laterPages_cons
    (settings : Settings)
    (page : Page)
    (others : List Page) :
    settings.laterPages (page :: others) =
      .step ⟨"Navigate to " ++ page.url,
        .goto page.url ::
          settings.waitBefore
            (settings.allEntries (page :: others))⟩ ::
        settings.allEntries (page :: others) :=
  rfl

/- The last step before a later page awaits it. -/
theorem awaits_laterPages
    {page : Page}
    {others : List Page}
    {next : Entry}
    (hEntry :
      entry ∈ (settings.pageEntries page others).getLast?)
    (hNext : next ∈ (settings.laterPages others).head?) :
    entry.Awaits settings next := by
  intro _ s hStep
  cases others with
  | nil => cases hNext
  | cons second others =>
      rw [hStep] at hEntry
      exact getLast?_operations_of_settled hEntry

variable {pages : List Page}

/-
  Every address is settled, every step before a page awaits
  it, and what waits there are is accounted for. By induction
  on the pages: a page that is not the first is opened by an
  address with the entries of all pages from it on behind it.
-/
theorem settles_allEntries
    (hPages : ArePlain pages) :
    ∀ stretch ∈ stretchesOf (settings.allEntries pages),
      stretch.Settles settings := by
  induction pages with
  | nil => exact fun _ hStretch => (List.not_mem_nil hStretch).elim
  | cons page others ih =>
      have hOthers := ih fun p hp =>
        hPages p (List.mem_cons_of_mem _ hp)
      have hPage := hPages page (by simp)
      refine settles_append
        (fun _ => isStill_of_mem_pageEntries hPage) ?_
      cases others with
      | nil => exact hOthers
      | cons next others =>
          rw [laterPages_cons]
          intro stretch hStretch
          rcases List.mem_cons.mp hStretch with
            rfl | hStretch
          · exact settles_goto settings next.url _
          · exact hOthers stretch hStretch

theorem isChain_allEntries
    (hPages : ArePlain pages) :
    (settings.allEntries pages).IsChain
      (Entry.Awaits settings) := by
  induction pages with
  | nil => exact .nil
  | cons page others ih =>
      have hOthers := ih fun p hp =>
        hPages p (List.mem_cons_of_mem _ hp)
      have hPage := hPages page (by simp)
      refine List.isChain_append.mpr
        ⟨isChain_of_isStill fun _ =>
            isStill_of_mem_pageEntries hPage, ?_,
          fun _ hEntry _ => awaits_laterPages hEntry⟩
      cases others with
      | nil => exact .nil
      | cons next others =>
          rw [laterPages_cons]
          refine List.isChain_cons.mpr ⟨?_, hOthers⟩
          intro entry hEntry _ s hStep
          cases hStep
          -- Something follows, so the address is waited for.
          have hSome :
              ¬ (settings.allEntries
                (next :: others)).isEmpty = true := by
            intro hEmpty
            rw [List.isEmpty_iff.mp hEmpty] at hEntry
            cases hEntry
          unfold Settings.waitBefore
          rw [if_neg hSome]
          rfl

theorem waitsOf_allEntries
    (hPages : ArePlain pages) :
    waitsOf (settings.allEntries pages) =
      (pages.flatMap Page.actions).countP isPause +
        followedGotos
          (stretchesOf (settings.allEntries pages)) +
        stops settings pages := by
  induction pages with
  | nil => rfl
  | cons page others ih =>
      have hOthers := ih fun p hp =>
        hPages p (List.mem_cons_of_mem _ hp)
      have hStill :
          ∀ entry ∈ settings.pageEntries page others,
            IsStill entry :=
        fun _ => isStill_of_mem_pageEntries
          (hPages page (by simp))
      have hLater :
          waitsOf (settings.laterPages others) =
            (others.flatMap Page.actions).countP isPause +
              followedGotos
                (stretchesOf (settings.laterPages others)) +
              stops settings others := by
        cases others with
        | nil => rfl
        | cons next others =>
            have hOpened :=
              followedGotos_goto settings next.url
                (settings.allEntries (next :: others))
                (stretchesOf
                  (settings.allEntries (next :: others)))
            rw [laterPages_cons, waitsOf_cons, hOthers]
            dsimp only [stretchesOf, Entry.operations]
            rw [hOpened]
            omega
      unfold Settings.allEntries
      rw [waitsOf_append, waitsOf_pageEntries, hLater,
        followedGotos_append hStill, stops_cons,
        List.flatMap_cons, List.countP_append]
      omega

------------------------------------------------------------
-- Plans
------------------------------------------------------------

/- The opening of a test settles like any other page. -/
theorem settles_opening
    (settings : Settings)
    (startUrl : Option String)
    (entries : List Entry) :
    Stretch.Settles settings
      ⟨settings.opening startUrl entries, entries⟩ := by
  cases startUrl with
  | some url => exact settles_goto settings url entries
  | none =>
      intro before url after hOperations
      cases before <;> cases hOperations

theorem followedGotos_opening
    (settings : Settings)
    (startUrl : Option String)
    (entries : List Entry)
    (more : List Stretch) :
    followedGotos
        (⟨settings.opening startUrl entries, entries⟩ ::
          more) =
      (settings.opening startUrl entries).countP
        Operation.isWait + followedGotos more := by
  cases startUrl with
  | some url => exact followedGotos_goto settings url entries more
  | none =>
      unfold followedGotos
      cases entries <;> exact (Nat.zero_add _).symm

/-
  Where a test waits: behind every address that an entry comes
  after, and behind no other; at the end of every step right
  before an entry that opens a page; and nowhere else but
  where a user paused.
-/
theorem settles_build
    (settings : Settings)
    (fallback : Option String)
    (actions : List Action) :
    (∀ stretch ∈ (build settings fallback actions).stretches,
        stretch.Settles settings) ∧
      (build settings fallback actions).entries.IsChain
        (Entry.Awaits settings) ∧
      (build settings fallback actions).operations.countP
          Operation.isWait =
        (clean settings actions).countP isPause +
          followedGotos
            (build settings fallback actions).stretches +
          (Page.split (clean settings actions)).dropLast.countP
            fun page =>
              endsInStep (settings.entries page.actions) := by
  rcases split_clean settings actions with ⟨hPlain, hPauses⟩
  refine ⟨?_, isChain_allEntries hPlain, ?_⟩
  · intro stretch hStretch
    rcases List.mem_cons.mp hStretch with rfl | hStretch
    · exact settles_opening settings _ _
    · exact settles_allEntries hPlain stretch hStretch
  · have hWaits : waitsOf (settings.allEntries _) = _ :=
      waitsOf_allEntries hPlain
    rw [hPauses] at hWaits
    unfold waitsOf stops at hWaits
    unfold operations stretches build
    dsimp only
    rw [List.countP_append, hWaits, followedGotos_opening]
    omega

end Plan

end Clickstream
