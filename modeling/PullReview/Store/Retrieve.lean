import PullReview.Json.Display
import PullReview.Store.Basic
/-!
# Retrieval

What the store knows about changed files: for each file the first graph and the first imports that were stored under
its path, and the first learnings.  A collection that cannot be read is reported and counts as empty.  The whole is
made into one text; that fails on a payload whose parts are not what they should be.
-/
namespace PullReview
namespace Store

open Text

/-- The payload is about this file; a payload that names no file is about null. -/
def isAbout (path payload : Json) : Except Fault Bool := do return (← payload.field "file_path" .null).same path

def firstAbout (svc : Service) (c : Collection) (what : String) (path : Json) : Run Store (List Json) :=
  (scroll svc c (isAbout path) (.int 1)).orElse fun cause => do
    Run.say ("Error getting " ++ what ++ " for " ++ path.display ++ ": " ++ cause.message)
    return []

def graphsOf (svc : Service) (paths : Json) : Run Store (List Json) := do
  return (← Run.mapEach (firstAbout svc .codeGraphs "code graph") (← Run.of paths.elements)).flatten

def importsOf (svc : Service) (paths : Json) : Run Store (List Json) := do
  return (← Run.mapEach (firstAbout svc .importFiles "import file") (← Run.of paths.elements)).flatten

def recentLimit : Json := .int 3

def learnings (svc : Service) (limit : Json) : Run Store (List Json) :=
  (scroll svc .learnings (fun _ => .ok true) limit).orElse fun cause => do
    Run.say ("Error getting learnings: " ++ cause.message)
    return []

/-! ## The text -/

def unknown : Json := "N/A"

def opening (payload : Json) (name : String) (fallback : Json) : Except Fault String := do
  return (← (← payload.field name fallback).beginning 100).display ++ "..."

def learningLines (l : Json) : Except Fault (List String) := do
  let message ← l.field "commit_message" unknown
  let comment ← opening l "bot_comment" unknown
  let feedback ← l.field "user_feedback" .null
  let answer ← if feedback.isGiven then do
      pure ["  User: " ++ (← opening l "user_feedback" unknown)]
    else pure []
  return ["- " ++ message.display, "  Bot: " ++ comment] ++ answer

def graphLines (g : Json) : Except Fault (List String) := do
  let path ← g.field "file_path" unknown
  let functions ← (← g.field "functions" (.list [])).listed
  let classes ← (← g.field "classes" (.list [])).listed
  return ["- " ++ path.display, "  Functions: " ++ functions, "  Classes: " ++ classes]

def importLines (f : Json) : Except Fault (List String) := do
  let path ← f.field "file_path" unknown
  let source ← (← f.field "source_code" "").beginning 200
  return ["- " ++ path.display, "  ```python\n" ++ source.display ++ "...\n```"]

/-- A title and the lines of all items; nothing without items. -/
def titled (title : String) (lines : Json → Except Fault (List String)) (items : Json) :
    Except Fault (List String) := do
  if items.isGiven then return title :: (← (← items.elements).mapM lines).flatten else return []

def digestText (graphs imports learnings : Json) : Except Fault String := do
  let learned ← titled "## Past Learnings:" learningLines learnings
  let structured ← titled "\n## Code Structure:" graphLines graphs
  let sources ← titled "\n## Source Code:" importLines imports
  return joinLines (learned ++ structured ++ sources)

/-! ## Everything at once -/

inductive Retrieved where
  | completed (graphs imports learnings : List Json) (text : String)
  | failed (cause : Fault)

def learningLimit : Json := .int 5

def retrieve (svc : Service) (state : Json) : Run Store Retrieved :=
  fetch.orElse fun cause => return .failed cause
where
  fetch : Run Store Retrieved := do
    let paths ← Run.of (state.field "changed_files" (.list []))
    let graphs ← graphsOf svc paths
    let imports ← importsOf svc paths
    let learned ← learnings svc learningLimit
    return .completed graphs imports learned (← Run.of (digestText (.list graphs) (.list imports) (.list learned)))

end Store
end PullReview
