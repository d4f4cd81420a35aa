import Clickstream.Text.Blank
import Clickstream.Plan.Cleanup
import Clickstream.Plan.Page
import Clickstream.Plan.Step

/-
  Plans: a whole test in no language yet. A plan opens the
  first page and goes through the entries of every page in
  order; around navigations it waits for pages to settle.

  Key definitions:
    * `Plan`, `Plan.steps`
    * `Settings.settled`: entries before another page
    * `Settings.laterPages`: the entries after the first page
    * `Settings.opening`
    * `Plan.build`
-/

namespace Clickstream

/-
  A test: the address it starts at, what it does before the
  first step, and its steps and remarks.
-/
structure Plan where
  startUrl : Option String
  opening : List Operation
  entries : List Entry
deriving DecidableEq, Repr, Inhabited

namespace Plan

/- The steps of a plan without the remarks. -/
def steps (plan : Plan) : List Step :=
  plan.entries.filterMap Entry.step?

------------------------------------------------------------
-- Waiting
------------------------------------------------------------

namespace Settings

/- The wait for a page to settle. -/
def wait (settings : Settings) : Operation :=
  .settleWait settings.settleWait

/- A wait that is only needed when something follows. -/
def waitBefore
    (settings : Settings)
    (following : List Entry) : List Operation :=
  if following.isEmpty then [] else [settings.wait]

/- A step with one more operation at its end. -/
def extend
    (operation : Operation) :
    Entry → Entry
  | .step s =>
      .step { s with operations := s.operations ++ [operation] }
  | .skipped reason => .skipped reason

/- Entries whose last step waits for the next page. -/
def settled
    (settings : Settings) :
    List Entry → List Entry
  | [] => []
  | [entry] => [extend settings.wait entry]
  | entry :: rest => entry :: settings.settled rest

/- The entries of a page, given the pages after it. -/
def pageEntries
    (settings : Settings)
    (page : Page)
    (others : List Page) : List Entry :=
  if others.isEmpty then settings.entries page.actions
  else settings.settled (settings.entries page.actions)

------------------------------------------------------------
-- Pages
------------------------------------------------------------

/-
  The entries of pages that are opened on the way. Each page
  is opened by a step of its own.
-/
def laterPages
    (settings : Settings) :
    List Page → List Entry
  | [] => []
  | page :: others =>
      let following :=
        settings.pageEntries page others ++
          settings.laterPages others
      let opened := openStep page.url
      .step { opened with
        operations := opened.operations ++
          settings.waitBefore following } ::
        following

/- The entries of all pages; the first one is open already. -/
def allEntries
    (settings : Settings) :
    List Page → List Entry
  | [] => []
  | page :: others =>
      settings.pageEntries page others ++
        settings.laterPages others

/- What a test does before its entries. -/
def opening
    (settings : Settings)
    (startUrl : Option String)
    (entries : List Entry) : List Operation :=
  match startUrl with
  | some url => .goto url :: settings.waitBefore entries
  | none => []

end Settings

------------------------------------------------------------
-- Plans
------------------------------------------------------------

/-
  Where a test starts: at the first page, or else where the
  caller says; an address that is blank is none.
-/
def startUrlOf
    (pages : List Page)
    (fallback : Option String) : Option String :=
  let url :=
    match pages with
    | page :: _ => some page.url
    | [] => fallback
  url.filter (fun url => !Text.isBlankText url)

/- The plan of a recording. -/
def build
    (settings : Settings)
    (fallback : Option String)
    (actions : List Action) : Plan :=
  let pages := Page.split (clean settings actions)
  let startUrl := startUrlOf pages fallback
  let entries := settings.allEntries pages
  { startUrl := startUrl
    opening := settings.opening startUrl entries
    entries := entries }

end Plan

end Clickstream
