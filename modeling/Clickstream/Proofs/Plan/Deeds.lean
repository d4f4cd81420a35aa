import Clickstream.Plan.Build
import Clickstream.Proofs.Plan.Cleanup
import Clickstream.Proofs.Plan.Entries

/-
  Deeds: what a test does, apart from waiting a fixed time.
  However a recording is cut into pages and steps, the deeds
  of its plan are those of its actions, one after the other.

  Key definitions:
    * `Operation.deeds`, `Plan.deeds`
    * `Settings.deedsOf`: the deeds of one action
    * `Settings.deedsOfAll`: the deeds of a clean recording

  Key theorems:
    * `entriesDeeds_pageEntries`
    * `deeds_splitAt`
    * `entriesDeeds_splitAt`
    * `deeds_build`
-/

namespace Clickstream

------------------------------------------------------------
-- Deeds
------------------------------------------------------------

namespace Operation

/- Whether an operation waits a fixed time. -/
def isWait : Operation → Bool
  | .settleWait _ => true
  | _ => false

/- The operations that do not wait a fixed time. -/
def deeds (operations : List Operation) : List Operation :=
  operations.filter (fun operation => !operation.isWait)

theorem deeds_append (before after : List Operation) :
    deeds (before ++ after) = deeds before ++ deeds after :=
  List.filter_append _ _

theorem deeds_flatMap
    {β : Type}
    (items : List β)
    (f : β → List Operation) :
    deeds (items.flatMap f) =
      items.flatMap (fun item => deeds (f item)) :=
  List.filter_flatMap

end Operation

namespace Plan

open Operation

/- What a test does from its start to its end. -/
def operations (plan : Plan) : List Operation :=
  plan.opening ++ plan.entries.flatMap Entry.operations

/- What a test does apart from waiting. -/
def deeds (plan : Plan) : List Operation :=
  Operation.deeds plan.operations

/- An address is opened unless it is missing or blank. -/
def openingDeeds (url : Option String) : List Operation :=
  (url.filter (fun url => !Text.isBlankText url)).toList.map
    .goto

namespace Settings

/-
  What an action stands for: a navigation to an address opens
  it, and any other action does what its step does. Where
  there is no step a note says why.
-/
def deedsOf
    (settings : Settings)
    (action : Action) : List Operation :=
  match action.address? with
  | some url => [.goto url]
  | none =>
      match settings.stepFor action with
      | .ok step => Operation.deeds step.operations
      | .error refusal => [.note refusal.remark]

/-
  What a clean recording stands for. It begins where its first
  navigation went, unless that address is blank; an empty
  recording only opens the address that is given with it.
-/
def deedsOfAll
    (settings : Settings)
    (fallback : Option String) :
    List Action → List Operation
  | [] => openingDeeds fallback
  | first :: rest =>
      (match first.address? with
        | some url => openingDeeds (some url)
        | none => settings.deedsOf first) ++
      rest.flatMap settings.deedsOf

end Settings

variable {settings : Settings}
variable {action first : Action}
variable {actions rest : List Action}
variable {url : String}

theorem deedsOf_of_some
    (hAddress : action.address? = some url) :
    settings.deedsOf action = [.goto url] := by
  unfold Settings.deedsOf
  rw [hAddress]

/- An action that opens no address does what stands for it. -/
theorem deedsOf_of_none
    (hAddress : action.address? = none) :
    settings.deedsOf action =
      Operation.deeds (settings.operationsOrNote action) := by
  unfold Settings.deedsOf
  rw [hAddress]
  cases hStep : settings.stepFor action with
  | ok step => rw [operationsOrNote_of_ok hStep]
  | error refusal =>
      rw [operationsOrNote_of_error hStep]
      rfl

theorem isAt_of_mem_deedsOf
    {operation : Operation}
    (hOperation : operation ∈ settings.deedsOf action) :
    operation.IsAt action := by
  unfold Settings.deedsOf at hOperation
  split at hOperation
  · rename_i url hAddress
    rw [List.mem_singleton.mp hOperation]
    exact (kind_of_address?_eq_some hAddress).2
  · split at hOperation
    · rename_i step hStep
      exact Settings.isAt_of_stepFor hStep operation
        (List.mem_filter.mp hOperation).1
    · rw [List.mem_singleton.mp hOperation]
      trivial

------------------------------------------------------------
-- Entries
------------------------------------------------------------

/- The deeds of entries. -/
def entriesDeeds (entries : List Entry) : List Operation :=
  Operation.deeds (entries.flatMap Entry.operations)

theorem entriesDeeds_append (before after : List Entry) :
    entriesDeeds (before ++ after) =
      entriesDeeds before ++ entriesDeeds after := by
  unfold entriesDeeds
  rw [List.flatMap_append, deeds_append]

theorem entriesDeeds_cons
    (entry : Entry)
    (entries : List Entry) :
    entriesDeeds (entry :: entries) =
      Operation.deeds entry.operations ++
        entriesDeeds entries := by
  unfold entriesDeeds
  rw [List.flatMap_cons, deeds_append]

/- Waiting at the end of a step adds no deed. -/
theorem deeds_extend_wait
    (settings : Settings)
    (entry : Entry) :
    Operation.deeds
        (Settings.extend settings.wait entry).operations =
      Operation.deeds entry.operations := by
  cases entry with
  | skipped reason => rfl
  | step s =>
      have hWait : Operation.deeds [settings.wait] = [] := rfl
      calc Operation.deeds (s.operations ++ [settings.wait])
          = Operation.deeds s.operations ++
              Operation.deeds [settings.wait] :=
            deeds_append _ _
        _ = Operation.deeds s.operations := by
            rw [hWait, List.append_nil]

theorem entriesDeeds_settled
    (settings : Settings)
    (entries : List Entry) :
    entriesDeeds (settings.settled entries) =
      entriesDeeds entries := by
  induction entries with
  | nil => rfl
  | cons entry rest ih =>
      cases rest with
      | nil =>
          unfold Settings.settled
          rw [entriesDeeds_cons, deeds_extend_wait,
            ← entriesDeeds_cons]
      | cons second rest =>
          unfold Settings.settled
          rw [entriesDeeds_cons, ih, ← entriesDeeds_cons]

/- The deeds of a page are those of its actions. -/
theorem entriesDeeds_pageEntries
    (settings : Settings)
    (page : Page)
    (others : List Page) :
    entriesDeeds (settings.pageEntries page others) =
      page.actions.flatMap (fun action =>
        Operation.deeds (settings.operationsOrNote action)) := by
  have hEntries :
      entriesDeeds (settings.entries page.actions) =
        page.actions.flatMap (fun action =>
          Operation.deeds
            (settings.operationsOrNote action)) := by
    unfold entriesDeeds
    rw [Settings.operations_entries, deeds_flatMap]
  unfold Settings.pageEntries
  split
  · exact hEntries
  · rw [entriesDeeds_settled]
    exact hEntries

theorem deeds_waitBefore
    (settings : Settings)
    (following : List Entry) :
    Operation.deeds (settings.waitBefore following) = [] := by
  unfold Settings.waitBefore
  split <;> rfl

------------------------------------------------------------
-- Pages
------------------------------------------------------------

/- What is done on pages, which are all to be opened. -/
def pagesDeeds
    (settings : Settings)
    (pages : List Page) : List Operation :=
  pages.flatMap fun page =>
    .goto page.url ::
      page.actions.flatMap (fun action =>
        Operation.deeds (settings.operationsOrNote action))

theorem entriesDeeds_laterPages
    (settings : Settings)
    (pages : List Page) :
    entriesDeeds (settings.laterPages pages) =
      pagesDeeds settings pages := by
  induction pages with
  | nil => rfl
  | cons page others ih =>
      unfold Settings.laterPages pagesDeeds
      dsimp only
      rw [entriesDeeds_cons, entriesDeeds_append, ih,
        entriesDeeds_pageEntries, List.flatMap_cons]
      dsimp only [Entry.operations]
      rw [deeds_append, deeds_waitBefore, List.append_nil]
      rfl

/- A recording that goes on somewhere begins on that page. -/
theorem exists_splitAt_eq_cons
    (url : String)
    (actions : List Action) :
    ∃ page others,
      Page.splitAt url actions = page :: others ∧
        page.url = url := by
  induction actions generalizing url with
  | nil => exact ⟨_, _, rfl, rfl⟩
  | cons action rest ih =>
      unfold Page.splitAt
      split
      · split
        · exact ih url
        · exact ⟨_, _, rfl, rfl⟩
      · rcases ih url with ⟨page, others, hPages, hUrl⟩
        rw [hPages]
        exact ⟨_, _, rfl, hUrl⟩

/-
  Cutting a recording into pages loses nothing, as long as no
  navigation goes where the page already is: such navigations
  open no page of their own.
-/
theorem deeds_splitAt
    (hMoves : Moves (some url) actions) :
    pagesDeeds settings (Page.splitAt url actions) =
      .goto url :: actions.flatMap settings.deedsOf := by
  induction actions generalizing url with
  | nil => rfl
  | cons action rest ih =>
      unfold Page.splitAt
      cases hAddress : action.address? with
      | some next =>
          rcases (moves_cons_of_some hAddress).mp hMoves with
            ⟨hLeaves, hRest⟩
          have hOther : next ≠ url := fun hSame =>
            hLeaves (congrArg some hSame.symm)
          dsimp only
          rw [if_neg hOther, List.flatMap_cons,
            deedsOf_of_some hAddress, List.singleton_append,
            ← ih hRest]
          rfl
      | none =>
          have hRest := (moves_cons_of_none hAddress).mp hMoves
          have hPages := ih hRest
          rcases exists_splitAt_eq_cons url rest with
            ⟨page, others, hSplit, hUrl⟩
          rw [hSplit] at hPages
          unfold pagesDeeds at hPages
          rw [List.flatMap_cons, hUrl, List.cons_append]
            at hPages
          have hDeeds := List.cons.inj hPages
          dsimp only
          rw [hSplit, List.flatMap_cons,
            deedsOf_of_none hAddress, ← hDeeds.2]
          unfold pagesDeeds Page.precedeFirst Page.precede
          rw [List.flatMap_cons, List.flatMap_cons, hUrl,
            List.cons_append, List.append_assoc]

/- The first page is open already. -/
theorem entriesDeeds_allEntries
    (settings : Settings)
    (page : Page)
    (others : List Page) :
    .goto page.url ::
        entriesDeeds (settings.allEntries (page :: others)) =
      pagesDeeds settings (page :: others) := by
  unfold Settings.allEntries
  rw [entriesDeeds_append, entriesDeeds_pageEntries,
    entriesDeeds_laterPages]
  rfl

/- The entries of a recording that goes on somewhere. -/
theorem entriesDeeds_splitAt
    (hMoves : Moves (some url) actions) :
    entriesDeeds
        (settings.allEntries (Page.splitAt url actions)) =
      actions.flatMap settings.deedsOf := by
  have hPages :
      pagesDeeds settings (Page.splitAt url actions) = _ :=
    deeds_splitAt hMoves
  rcases exists_splitAt_eq_cons url actions with
    ⟨page, others, hSplit, _⟩
  rw [hSplit, ← entriesDeeds_allEntries] at hPages
  rw [hSplit]
  exact (List.cons.inj hPages).2

theorem startUrlOf_splitAt
    (url : String)
    (actions : List Action)
    (fallback : Option String) :
    startUrlOf (Page.splitAt url actions) fallback =
      (some url).filter (fun url => !Text.isBlankText url) := by
  rcases exists_splitAt_eq_cons url actions with
    ⟨page, others, hSplit, hUrl⟩
  rw [hSplit, ← hUrl]
  rfl

------------------------------------------------------------
-- Plans
------------------------------------------------------------

theorem deeds_opening
    (settings : Settings)
    (startUrl : Option String)
    (entries : List Entry) :
    Operation.deeds (settings.opening startUrl entries) =
      startUrl.toList.map .goto := by
  cases startUrl with
  | none => rfl
  | some url =>
      have hWait := deeds_waitBefore settings entries
      unfold Operation.deeds at hWait
      unfold Settings.opening Operation.deeds
      rw [List.filter_cons_of_pos rfl, hWait]
      rfl

/- The first page is opened before the entries. -/
theorem deeds_build_eq_append
    (settings : Settings)
    (fallback : Option String)
    (actions : List Action) :
    (build settings fallback actions).deeds =
      (startUrlOf (Page.split (clean settings actions))
          fallback).toList.map .goto ++
        entriesDeeds
          (settings.allEntries
            (Page.split (clean settings actions))) := by
  unfold deeds operations build
  dsimp only
  rw [deeds_append, deeds_opening]
  rfl

/-
  The deeds of a plan are those of the cleaned recording, and
  each of them is done where its action was done.
-/
theorem deeds_build
    (settings : Settings)
    (fallback : Option String)
    (actions : List Action) :
    (build settings fallback actions).deeds =
        settings.deedsOfAll fallback
          (clean settings actions) ∧
      ∀ action ∈ clean settings actions,
        ∀ operation ∈ settings.deedsOf action,
          operation.IsAt action := by
  refine ⟨?_, fun _ _ _ => isAt_of_mem_deedsOf⟩
  rw [deeds_build_eq_append]
  cases hClean : clean settings actions with
  | nil => exact List.append_nil _
  | cons first rest =>
      rcases address?_of_clean_eq_cons hClean with
        ⟨url, hAddress⟩
      have hMoves := moves_clean settings actions
      rw [hClean] at hMoves
      have hRest := ((moves_cons_of_some hAddress).mp hMoves).2
      have hSplit :
          Page.split (first :: rest) =
            Page.splitAt url rest := by
        unfold Page.split
        rw [hAddress]
      unfold Settings.deedsOfAll
      dsimp only
      rw [hSplit, hAddress, startUrlOf_splitAt,
        entriesDeeds_splitAt hRest]
      rfl

end Plan

end Clickstream
