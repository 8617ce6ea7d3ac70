import PullReview.Json.Display
import PullReview.Store.Basic
import PullReview.Text.Blank
/-!
# Embeddings

The texts that are embedded, and what stands for the embedding of a text without any: a vector of zeros.
-/
namespace PullReview
namespace Store

open Text

def vectorSize : Nat := 768

def zeroVector : List Int := List.replicate vectorSize 0

def askModel (svc : Service) (text : String) : Run Store (List Int) := do
  Run.update fun s => { s with embedded := s.embedded ++ [text] }
  match svc.embeddingOutage with
  | some reason => throw (.refused reason)
  | none => return svc.embedding text

def embed (svc : Service) (text : String) : Run Store (List Int) :=
  if hasInk text then askModel svc text else pure zeroVector

/-- A value is embedded as a text, which it has to be unless it counts as missing. -/
def embedValue (svc : Service) (v : Json) : Run Store (List Int) := do
  if v.isGiven then embed svc (← Run.of (v.textFor "strip")) else return zeroVector

/-- The text that is embedded for one of many; one without ink is taken for a single space. -/
def inkedText (v : Json) : Except Fault String := do
  if v.isGiven then
    let s ← v.textFor "strip"
    return if hasInk s then s else " "
  else return " "

def embedAll (svc : Service) (texts : Json) : Run Store (List (List Int)) := do
  Run.mapEach (askModel svc) (← Run.of (do (← texts.elements).mapM inkedText))

/-! ## Records -/

/-- Lines of a record, indented under the first, without white space at the ends. -/
def record (lines : List String) : String := strip (joinWith "\n        " lines)

def graphRecord (graph : Json) : Except Fault String := do
  let path ← graph.field "file_path" ""
  let functions ← (← graph.field "functions" (.list [])).listed
  let classes ← (← graph.field "classes" (.list [])).listed
  let calls ← (← graph.field "calls" (.list [])).listed
  let nodes ← graph.field "nodes" (.int 0)
  let edges ← graph.field "edges" (.int 0)
  return record
    ["File: " ++ path.display,
      "Functions: " ++ functions,
      "Classes: " ++ classes,
      "Function Calls: " ++ calls,
      "Total Nodes: " ++ nodes.display,
      "Total Edges: " ++ edges.display,
      ""]

def importRecord (path source imports : Json) : Except Fault String := do
  return record ["File: " ++ path.display, "Imports: " ++ (← imports.listed), "Source Code: " ++ source.display, ""]

def learningRecord (message comment feedback context : Json) : Except Fault String := do
  let code ← if context.isGiven then context.beginning 500 else pure "Nothing yet"
  return record
    ["Commit: " ++ message.display,
      "Bot Review: " ++ comment.display,
      "User Feedback: " ++ (if feedback.isGiven then feedback.display else "No feedback yet"),
      "Code Context: " ++ code.display,
      ""]

end Store
end PullReview
