import PullReview.Json.Access
import PullReview.Json.Display
/-!
# The part about one file

What a changed file defines and imports, the numbers about its graph, and the diff.  Long lists are cut, with a line
that says how much is missing.  The analysis and the numbers come as JSON documents, and a part of the wrong kind is a
fault.
-/
namespace PullReview
namespace Context

open Text

/-- A line number in writing, unless it has too many digits. -/
def lineText (line : Json) : Except Fault String :=
  match line with
  | .int n => if Nat.pow 10 digitLimit ≤ n.natAbs then .error .unwritable else .ok (toString n)
  | other => .ok other.display

def mentionLine (m : Json) : Except Fault String := do
  let name ← m.require "name"
  let line ← m.require "start_line"
  return "- **" ++ name.display ++ "** (line " ++ (← lineText line) ++ ")\n"

def remainder (shown total : Nat) (what : String) : String :=
  if total ≤ shown then "" else "- ... and " ++ toString (total - shown) ++ " more " ++ what ++ "\n"

def shownItems (limit : Nat) (v : Json) : Except Fault (List Json) := do (← v.beginning limit).elements

def mentionLines (limit : Nat) (what : String) (mentions : Json) : Except Fault String := do
  let lines ← (← shownItems limit mentions).mapM mentionLine
  return joinWith "" lines ++ remainder limit (← mentions.size) what

def importLines (imports : Json) : Except Fault String := do
  if imports.isGiven then
    let shown ← shownItems 10 imports
    return "\n### Imports\n" ++ joinWith "" (shown.map fun name => "- `" ++ name.display ++ "`\n") ++
      remainder 10 (← imports.size) "imports"
  else return ""

def callLine (calls : Json) : Except Fault String := do
  if calls.isGiven then return "- **Function calls detected**: " ++ (← (← calls.beginning 5).listed) ++ "\n"
  else return ""

def insightLines (insight : Json) : Except Fault String := do
  if insight.isGiven then
    let functions ← insight.field "function_count" (.int 0)
    let classes ← insight.field "class_count" (.int 0)
    let imports ← insight.field "import_count" (.int 0)
    let calls ← callLine (← insight.field "function_calls" .null)
    let relationships ← insight.field "relationships" .null
    return "\n### Code Graph Analysis\n" ++
      "- **Functions found**: " ++ functions.display ++ "\n" ++
      "- **Classes found**: " ++ classes.display ++ "\n" ++
      "- **Import statements**: " ++ imports.display ++ "\n" ++ calls ++
      if relationships.isGiven then "- **Code relationships**: " ++ relationships.display ++ " total connections\n"
      else ""
  else return ""

def diffLines (diff : Json) : Except Fault String := do
  let full ← diff.field "full_diff" ""
  return if full.isGiven then "\n### Git Diff\n```\n" ++ full.display ++ "\n```" else ""

def fileTitle (path : Json) : String := "## File Analysis: " ++ path.display ++ "\n\n"

def fileAnalysis (path diff analysis insight : Json) : Except Fault String := do
  let functions ← analysis.field "functions" (.list [])
  let classes ← analysis.field "classes" (.list [])
  let imports ← analysis.field "imports" (.list [])
  let language ← analysis.field "language" "unknown"
  let functionCount ← functions.size
  let classCount ← classes.size
  let importCount ← imports.size
  let functionLines ← mentionLines 5 "functions" functions
  let classLines ← mentionLines 3 "classes" classes
  let importLines ← importLines imports
  let insightLines ← insightLines insight
  let diffLines ← diffLines diff
  return fileTitle path ++
    "**Language**: " ++ language.display ++ "\n" ++
    "**Functions**: " ++ toString functionCount ++ "\n" ++
    "**Classes**: " ++ toString classCount ++ "\n" ++
    "**Imports**: " ++ toString importCount ++ "\n" ++
    "\n### Functions & Classes\n" ++ functionLines ++ classLines ++ importLines ++ insightLines ++ diffLines

end Context
end PullReview
