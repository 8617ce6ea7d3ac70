import PullReview.Issue.Basic
import PullReview.Issue.Grammar
import PullReview.Json.Access
import PullReview.Text.Lower
/-!
# Reading issues out of a reviewer's text

Every line with a header opens an issue, unless it is a heading.  Its code is looked for on the nine lines below, up to
the next location.  An issue is kept when its path occurs in the path of a changed file and it shows some code.  The
line number is read before that: one with too many digits is a fault on any file.  The changed files are looked at only
when there is an issue to place, and only up to the first that fits.
-/
namespace PullReview
namespace Issue

open Text

/-- How far below its header the code of an issue may stand. -/
def reach : Nat := 9

def window (below : List (List Char)) : List (List Char) :=
  (below.take reach).takeWhile fun line => !hasLocation line

/-- The code found so far, after one more line: the first that is not empty stays. -/
def lookAt (labels : List (List Char)) (found : Option (List Char)) (line : List Char) : Option (List Char) :=
  match found with
  | some (c :: cs) => some (c :: cs)
  | other => firstLabelled? labels line <|> other

def code? (labels : List (List Char)) (lines : List (List Char)) : Option String :=
  (lines.foldl (lookAt labels) none).map String.ofList

def severityOf (line : List Char) : Severity :=
  let words := (lower (String.ofList line)).toList
  if contains "critical".toList words then .critical
  else if contains "high".toList words then .high
  else if contains "low".toList words then .low
  else .medium

def isSkipped (line : List Char) : Bool := line.isEmpty || line.head? == some '#'

def opening? (line : List Char) : Option Header := if isSkipped line then none else header? line

def readLine (digits : List Char) : Except Fault Nat :=
  if digitLimit < digits.length then .error (.tooManyDigits digits.length) else .ok (numeral digits)

/-- Some changed file's path holds this one. -/
def isChanged (path : String) : List Json → Except Fault Bool
  | [] => .ok false
  | file :: rest => do if ← file.holds path then return true else isChanged path rest

def issueAt? (changed : Json) (line : List Char) (below : List (List Char)) : Except Fault (Option Issue) :=
  match opening? line with
  | none => .ok none
  | some header => do
    let number ← readLine header.location.digits
    let path := String.ofList header.location.path
    let lines := window below
    let current := code? currentLabels lines
    let fix := code? fixLabels lines
    if (← isChanged path (← changed.elements)) && (isFilled fix || isFilled current) then
      return some
        { path, line := number, severity := severityOf line, description := String.ofList header.description, current,
          fix }
    else return none

def parseLines (changed : Json) : List (List Char) → Except Fault (List Issue)
  | [] => .ok []
  | line :: below => do
    let here ← issueAt? changed line below
    let more ← parseLines changed below
    return here.toList ++ more

def parse (changed : Json) (text : String) : Except Fault (List Issue) :=
  parseLines changed ((lines text.toList).map trim)

def parseReport (changed report : Json) : Except Fault (List Issue) := do parse changed (← report.textFor "split")

end Issue
end PullReview
