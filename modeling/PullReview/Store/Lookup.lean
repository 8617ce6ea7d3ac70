import PullReview.Store.Embedding
/-!
# Lookup by likeness

Searching the store for what is like a question.
-/
namespace PullReview
namespace Store

open Text

structure Hit where
  reference : Json
  context : Json
  score : Int

/-- What is like a question, in one collection, with a score each. -/
def similar (svc : Service) (c : Collection) (question : Json) (limit : Json) : Run Store (List (Json × Int)) := do
  let _ ← embedValue svc question
  search svc c limit

def graphHit (found : Json × Int) : Except Fault Hit := do
  let (payload, score) := found
  let reference ← payload.field "file_path" ""
  let functions ← payload.field "functions" (.list [])
  let classes ← payload.field "classes" (.list [])
  return ⟨reference, .text ("Functions: " ++ functions.display ++ ", Classes: " ++ classes.display), score⟩

def sourceHit (found : Json × Int) : Except Fault Hit := do
  let (payload, score) := found
  return ⟨← payload.field "file_path" "", ← payload.field "source_code" "", score⟩

def lookUpCode (svc : Service) (question : Json) (limit : Json) : Run Store (List Hit × List Hit) := do
  let graphs ← similar svc .codeGraphs question limit
  let graphHits ← Run.of (graphs.mapM graphHit)
  let sources ← similar svc .importFiles question limit
  let sourceHits ← Run.of (sources.mapM sourceHit)
  return (graphHits, sourceHits)

def learningLine (payload : Json) : Except Fault String := do
  return "- " ++ (← payload.field "commit_message" "").display ++ ": " ++ (← payload.field "bot_comment" "").display

def lookUpLearnings (svc : Service) (question : Json) (limit : Json) : Run Store String := do
  let found ← similar svc .learnings question limit
  return joinLines (← Run.of (found.mapM fun hit => learningLine hit.1))

def usualLimit : Json := .int 10

end Store
end PullReview
