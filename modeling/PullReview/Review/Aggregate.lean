import PullReview.Issue.Parse
import PullReview.Review.Specialty
import PullReview.Review.Summary
/-!
# From reports to a review

The three reports are read for issues, and the issues make the review.  Reading may fail; the review then says so.
-/
namespace PullReview
namespace Review

/-- The reports on a pull request.  Only a text can be read for issues. -/
structure Reports where
  report : Specialty → Json
  status : Specialty → Option Status
  changedFiles : Json

inductive Verdict where
  | completed (review : String) (total : Nat)
  | failed (cause : Fault)
deriving DecidableEq

namespace Verdict

def review : Verdict → String
  | .completed review _ => review
  | .failed cause => "Review aggregation failed: " ++ cause.message

def status : Verdict → Status
  | .completed _ _ => .completed
  | .failed _ => .failed

def errors : Verdict → List String
  | .completed _ _ => []
  | .failed cause => ["Aggregator failed: " ++ cause.message]

end Verdict

namespace Reports

def issues (r : Reports) (specialty : Specialty) : Except Fault (List Issue) :=
  Issue.parseReport r.changedFiles (r.report specialty)

/-- The specialties without a report, in their order. -/
def failed (r : Reports) : List Specialty := Specialty.all.filter fun s => r.status s = some .failed

def findings (r : Reports) : Except Fault Findings := do
  let security ← r.issues .security
  let quality ← r.issues .quality
  let performance ← r.issues .performance
  let qualityReport ← (r.report .quality).textFor "split"
  return { security := security.map (·.entry), performance := performance.map (·.entry),
           quality := quality.map (·.entry), qualityReport := some qualityReport, failed := r.failed.map (·.title) }

def aggregate (r : Reports) : Verdict :=
  match r.findings with
  | .ok f => .completed f.review (f.security.length + f.quality.length + f.performance.length)
  | .error cause => .failed cause

end Reports
end Review
end PullReview
