import PullReview.Context.Dependency
import PullReview.Context.FilePart
import PullReview.Context.Header
import PullReview.Graph.Build
import PullReview.Graph.Insight
import PullReview.Tree.Import
/-!
# The document about a pull request

A head, a part for each changed file, the dependencies and a summary.  A file that is missing or cannot be analysed
has a part that says so; nothing else fails because of it.
-/
namespace PullReview
namespace Context

open Text

structure Reading where
  lang : Language
  analysis : Analysis
  graph : Graph

def Checkout.reading (c : Checkout) (path : String) : Except Fault Reading := do
  let lang := Language.ofPath path
  let (root, text) ← c.parseFile lang (c.locate path).toString
  return { lang, analysis := root.analyse lang text, graph := Graph.ofTree lang text root }

def analysedPart {σ : Type} (c : Checkout) (diff : Json) (path : String) : Run σ (List String) := do
  let r ← Run.of (c.reading path)
  let _ ← resolve c r.analysis.imports
  return [← Run.of (fileAnalysis path diff (r.analysis.document path r.lang.name) r.graph.insightDocument)]

/-- The part about a file that cannot be analysed, with what its text begins with. -/
def brokenPart {σ : Type} (c : Checkout) (path : String) (cause : Fault) : Run σ (List String) := do
  let opening := fileTitle path ++ "**Error**: " ++ cause.message ++ "\n\n**File content preview**:\n```\n"
  let preview ← match c.files.readText (c.locate path).toString with
    | .ok text => pure (if text.length ≤ 500 then text else clip 500 text ++ "...")
    | .error again => do
      Run.say ("Warning: Could not read file content: " ++ again.message)
      pure "Could not read file content"
  return [opening, preview, "\n```"]

def filePart {σ : Type} (c : Checkout) (diff : Json) (path : String) : Run σ (List String) := do
  if ← Run.of (c.files.hasPath (c.locate path)) then (analysedPart c diff path).orElse (brokenPart c path)
  else return [fileTitle path ++ "**File not found**: " ++ path ++ "\n"]

def pathOf : Json → Except Fault String
  | .text s => .ok s
  | other => .error (.cannotFollow other.kind)

def listedPart {σ : Type} (c : Checkout) (diff path : Json) : Run σ (String × List String) := do
  let path ← Run.of (pathOf path)
  return (path, ← filePart c diff path)

def isListed (changed : Json) (path : String) : Bool :=
  match changed.holds path with
  | .ok found => found
  | .error _ => false

def build {σ : Type} (c : Checkout) (diff history : Json) (now : Timestamp) : Run σ String := do
  let top ← Run.of (header diff history)
  let changed ← Run.of (changedFiles diff)
  let parts ← Run.mapEach (listedPart c diff) (← Run.of changed.elements)
  let dependencies ← collect c (parts.map Prod.fst) (isListed changed)
  let below ← if dependencies.isEmpty then pure [] else do
    pure [← Run.of (dependencySection (.list (dependencies.map (·.document))))]
  let bottom ← Run.of (summary diff history now)
  return joinWith "\n\n" ([top] ++ (parts.flatMap Prod.snd) ++ below ++ [bottom])

end Context
end PullReview
