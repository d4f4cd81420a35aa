import Clickstream.Action.Basic

/-
  Pages: the parts of a recording between navigations.

  Key definitions:
    * `Page`
    * `Page.split`: the pages of a recording
-/

namespace Clickstream

/- An address and what was done there. -/
structure Page where
  url : String
  actions : List Action
deriving DecidableEq, Repr, Inhabited

namespace Page

/- Done at the start of this page, before everything else. -/
def precede
    (action : Action)
    (page : Page) : Page :=
  { page with actions := action :: page.actions }

/- Put an action before the first page. -/
def precedeFirst
    (action : Action) :
    List Page → List Page
  | [] => []
  | page :: rest => page.precede action :: rest

/-
  The pages of a recording that goes on at `url`; the first
  one is that page. Going where the page already is opens no
  other page.
-/
def splitAt
    (url : String) :
    List Action → List Page
  | [] => [⟨url, []⟩]
  | action :: rest =>
      match action.address? with
      | some next =>
          if next = url then splitAt url rest
          else ⟨url, []⟩ :: splitAt next rest
      | none => precedeFirst action (splitAt url rest)

/-
  The pages of a recording. What comes before the first known
  address belongs to none.
-/
def split : List Action → List Page
  | [] => []
  | action :: rest =>
      match action.address? with
      | some url => splitAt url rest
      | none => split rest

end Page

end Clickstream
