import PullReview.Text.Search
/-!
# Issues

An issue is a remark about one line of a changed file, with the code that stands there and the code that should.
Reviewers use four severities; a review shows two, so that what has to be mended before merging is told apart from the
rest.
-/
namespace PullReview

inductive Severity where
  | critical
  | high
  | medium
  | low
deriving DecidableEq, Repr

namespace Severity

def label : Severity → String
  | .critical => "CRITICAL"
  | .high => "HIGH"
  | .medium => "MEDIUM"
  | .low => "LOW"

/-- The severity with a label; an unknown label counts as medium. -/
def ofLabel (s : String) : Severity :=
  if s = "CRITICAL" then .critical else if s = "HIGH" then .high else if s = "LOW" then .low else .medium

end Severity

inductive Rank where
  | critical
  | medium
deriving DecidableEq, Repr

def Severity.rank : Severity → Rank
  | .critical | .high => .critical
  | .medium | .low => .medium

namespace Rank

def label : Rank → String
  | .critical => "CRITICAL"
  | .medium => "MEDIUM"

def sign : Rank → String
  | .critical => "🔴"
  | .medium => "⚠️"

end Rank

structure Issue where
  path : String
  line : Nat
  severity : Severity
  description : String
  /-- The code that stands there. -/
  current : Option String
  /-- The code that should. -/
  fix : Option String
deriving DecidableEq, Repr

def isFilled (code : Option String) : Bool := code.any (· ≠ "")

/-! ## Writing

The form in which reviewers are asked to write an issue: a header line, then one line for each piece of code that the
issue has.
-/

namespace Issue

def headerLine (issue : Issue) : String :=
  "- `" ++ issue.path ++ ":" ++ toString issue.line ++ "` - " ++ issue.description

def codeLine (label code : String) : String := "  - " ++ label ++ " `" ++ code ++ "`"

def writtenLines (issue : Issue) : List String :=
  [issue.headerLine] ++ (issue.current.map (codeLine "**Current code:**")).toList ++
    (issue.fix.map (codeLine "**Fix:**")).toList

def written (issues : List Issue) : String := Text.joinLines (issues.flatMap writtenLines)

end Issue

end PullReview
