import PullReview.Issue.Basic
import PullReview.Text.Blank
import PullReview.Text.Decimal
/-!
# Entries of a review

An issue as a review shows it: every part is the text that will stand there.  Code is shown without the white space
around it; code that is missing or empty is not shown at all.
-/
namespace PullReview
namespace Review

open Text

/-- The file that an entry is shown under.  Files that look alike are told apart by a number. -/
structure Place where
  path : String
  number : Nat
deriving DecidableEq, Repr

structure Entry where
  file : Place
  line : String
  /-- The line number flush right, as it stands beside a change. -/
  flushLine : String
  rank : Rank
  description : String
  /-- The code that stands there. -/
  current : Option String
  /-- The code that should. -/
  fix : Option String
deriving DecidableEq, Repr

def shownCode (code : Option String) : Option String := if isFilled code then code.map strip else none

def flushRight (n : Int) : String := padLeft 4 (toString n)

end Review

/-- A path of an issue is a text, so no two look alike. -/
def Issue.entry (i : Issue) : Review.Entry :=
  { file := ⟨i.path, 0⟩, line := toString i.line, flushLine := Review.flushRight i.line, rank := i.severity.rank,
    description := i.description, current := Review.shownCode i.current, fix := Review.shownCode i.fix }

end PullReview
