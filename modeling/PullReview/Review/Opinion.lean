import PullReview.Json.Access
import PullReview.Json.Display
import PullReview.Model
import PullReview.Review.Prompt
/-!
# Opinions

What one reviewer makes of a pull request.  A reviewer that fails still has an opinion: a text that stands for the
report, and an error.
-/
namespace PullReview
namespace Review

structure Opinion where
  report : Option String
  status : Status
  errors : List String
deriving DecidableEq

structure Oracle where
  provider : Json
  reply : String → Reply

def reviewer : Specialty → String
  | .security => "Security agent"
  | .quality => "Code quality agent"
  | .performance => "Performance agent"

def fallback (cause : Fault) : Specialty → String
  | .security => "No critical security issues found."
  | .quality => "Code quality analysis failed: " ++ cause.message
  | .performance => "Performance analysis failed: " ++ cause.message

def Opinion.ofFailure (s : Specialty) (cause : Fault) : Opinion :=
  { report := some (fallback cause s), status := .failed, errors := [reviewer s ++ " failed: " ++ cause.message] }

/-- The prompt for what the state of a review holds: the context and the full diff. -/
def promptFor (state : Json) (s : Specialty) : Except Fault String := do
  let context ← state.field "comprehensive_context" ""
  let diff ← (← state.field "diff_data" (.object [])).field "full_diff" ""
  return Review.prompt s diff.display context.display

def report (oracle : Oracle) (state : Json) (s : Specialty) : Run (List ModelCall) (Option String) := do
  let prompt ← Run.of (promptFor state s)
  let client ← Run.of (ModelClient.ofProvider oracle.provider)
  client.generate oracle.reply prompt

def opinion (oracle : Oracle) (state : Json) (s : Specialty) : Run (List ModelCall) Opinion :=
  formed.orElse fun cause => return .ofFailure s cause
where
  formed : Run (List ModelCall) Opinion := do
    return { report := ← report oracle state s, status := .completed, errors := [] }

end Review
end PullReview
