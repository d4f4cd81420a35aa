import Clickstream.Plan.Build
import Clickstream.Script.Dialect

/-
  Layout: a plan as the lines of a file. Every operation is
  one line, every step a block, every remark a comment.

  Key definitions:
    * `Dialect.openingLines`
    * `Dialect.stepLines`, `Dialect.entryLines`
    * `Dialect.fillerLines`
    * `Dialect.fileLines`
    * `Dialect.render`
-/

namespace Clickstream

namespace Script

namespace Dialect

------------------------------------------------------------
-- Blocks
------------------------------------------------------------

/- A line of the body, or of a step in it. -/
def bodyLine
    (d : Dialect)
    (extra : Nat)
    (text : String) : String :=
  Text.indent d.indentUnit (d.bodyDepth + extra) text

/- What stands where no address is known to start at. -/
def placeholderLines
    (d : Dialect)
    (placeholderUrl : String) : List String :=
  [d.bodyLine 0 (d.comment
      "No start URL was recorded; replace the placeholder below"),
    d.bodyLine 0
      (d.comment (d.operation (.goto placeholderUrl)))]

/- The lines before the first step. -/
def openingLines
    (d : Dialect)
    (placeholderUrl : String)
    (opening : List Operation) : List String :=
  if opening.isEmpty then d.placeholderLines placeholderUrl
  else opening.map fun op => d.bodyLine 0 (d.operation op)

/- The filler, where a block has no statement of its own. -/
def fillerLines
    (d : Dialect)
    (extra : Nat)
    (isBare : Bool) : List String :=
  if isBare then d.filler.toList.map (d.bodyLine extra) else []

/- The block of a step. -/
def stepLines
    (d : Dialect)
    (step : Step) : List String :=
  d.bodyLine 0 (d.openStep step.title) ::
    step.operations.map (fun op =>
      d.bodyLine 1 (d.operation op)) ++
    d.fillerLines 1 (step.operations.all Operation.isNote) ++
    d.stepClose.toList.map (d.bodyLine 0)

/- The lines of an entry, after the blank line before it. -/
def entryLines
    (d : Dialect) :
    Entry → List String
  | .step step => d.stepLines step
  | .skipped reason =>
      [d.bodyLine 0 (d.comment ("Skipped: " ++ reason))]

------------------------------------------------------------
-- Files
------------------------------------------------------------

/- Whether the body of a test would have no statement. -/
def isBare (plan : Plan) : Bool :=
  plan.opening.isEmpty && plan.steps.isEmpty

/- The lines of a file. -/
def fileLines
    (d : Dialect)
    (testName placeholderUrl : String)
    (plan : Plan) : List String :=
  d.header testName ++
    d.openingLines placeholderUrl plan.opening ++
    plan.entries.flatMap (fun e => "" :: d.entryLines e) ++
    d.fillerLines 0 (isBare plan) ++
    "" :: d.footer

/- A plan as a file. -/
def render
    (d : Dialect)
    (testName placeholderUrl : String)
    (plan : Plan) : String :=
  Text.unlines (d.fileLines testName placeholderUrl plan)

end Dialect

end Script

end Clickstream
