import PullReview.Files.Basic
import PullReview.Graph.CrossFile
import PullReview.Json.Access
import PullReview.Json.Display
import PullReview.Tree.Import
/-!
# Dependencies

The files of the repository that changed files import.  A dotted name stands for a file by its parts, from the top
of the repository or from `src`; the first of the two that can be read is taken.  Names that start with a dot are
left out.
-/
namespace PullReview
namespace Context

open Text

structure Checkout where
  files : Files
  directory : Path
  parse : Language → List UInt8 → Except Fault Node

structure Dependency where
  name : String
  path : String
  source : String
  size : Int
deriving DecidableEq, Repr

def Dependency.document (d : Dependency) : Json :=
  .object [("import_name", d.name), ("resolved_path", d.path), ("source_code", d.source), ("size", .int d.size)]

namespace Checkout

def locate (c : Checkout) (path : String) : Path := c.directory.join path

/-- The tree and the text of a file.  The parser sees the file before its text is decoded. -/
def parseFile (c : Checkout) (lang : Language) (written : String) : Except Fault (Node × String) := do
  lang.loadGrammar
  let bytes ← c.files.read written
  let root ← c.parse lang bytes
  let text ← Files.decode bytes
  return (root, text)

end Checkout

/-! ## Finding them -/

def candidates (name : String) : List String := [Graph.modulePath name, "src/" ++ Graph.modulePath name]

/-- What a candidate leads to; one that is there and cannot be read is reported. -/
def readable {σ : Type} (c : Checkout) (name path : String) : Run σ (Option Dependency) := do
  let place := c.locate path
  if ← Run.of (c.files.hasPath place) then
    match c.files.readText place.toString with
    | .ok source => return some { name, path, source, size := source.length }
    | .error cause =>
      Run.say ("Error reading source code for " ++ name ++ ": " ++ cause.message)
      return none
  else return none

def firstReadable {σ : Type} (c : Checkout) (name : String) : List String → Run σ (Option Dependency)
  | [] => pure none
  | path :: rest => do
    match ← readable c name path with
    | some d => return some d
    | none => firstReadable c name rest

def resolveName {σ : Type} (c : Checkout) (name : String) : Run σ (Option Dependency) :=
  if startsWith "." name then pure none else firstReadable c name (candidates name)

def resolve {σ : Type} (c : Checkout) (imports : List String) : Run σ (List Dependency) := do
  return (← Run.mapEach (resolveName c) imports).filterMap id

/-- The dependencies that the names in a value lead to, each name looked at when its turn comes. -/
def resolveListed {σ : Type} (c : Checkout) (imports : Json) : Run σ (List Dependency) := do
  let found ← Run.mapEach (fun name => do resolveName c (← Run.of (name.textFor "replace")))
    (← Run.of imports.elements)
  return found.filterMap id

/-- The dependencies of one changed file; a file that cannot be analysed has none and is reported. -/
def dependenciesOf {σ : Type} (c : Checkout) (path : String) : Run σ (List Dependency) := do
  if ← Run.of (c.files.hasPath (c.locate path)) then
    analysed.orElse fun cause => do
      Run.say ("Error collecting dependencies for " ++ path ++ ": " ++ cause.message)
      return []
  else return []
where
  analysed : Run σ (List Dependency) := do
    let lang := Language.ofPath path
    let (root, text) ← Run.of (c.parseFile lang (c.locate path).toString)
    resolve c (root.imports lang text)

def firstByPath : List Dependency → List Dependency
  | [] => []
  | d :: rest => d :: (firstByPath rest).filter fun e => e.path ≠ d.path

/-- The dependencies of all changed files that are not changed themselves, each path once. -/
def collect {σ : Type} (c : Checkout) (changed : List String) (isChanged : String → Bool) :
    Run σ (List Dependency) := do
  let found ← Run.mapEach (dependenciesOf c) changed
  return firstByPath (found.flatten.filter fun d => !isChanged d.path)

/-! ## Showing them -/

def dependencyBlock (d : Json) : Except Fault String := do
  let path ← d.require "resolved_path"
  let name ← d.require "import_name"
  let size ← d.require "size"
  let source ← d.require "source_code"
  let opening ← source.beginning 1000
  let ending := if (← source.size) ≤ 1000 then "" else "..."
  return joinLines
    ["### " ++ path.display,
      "**Import**: `" ++ name.display ++ "`",
      "**Size**: " ++ size.display ++ " characters",
      "",
      "#### Source Code",
      "```python",
      opening.display ++ ending,
      "```",
      "",
      ""]

def dependencySection (dependencies : Json) : Except Fault String := do
  let count ← dependencies.size
  let blocks ← (← (← dependencies.beginning 10).elements).mapM dependencyBlock
  return "## Cross-File Dependencies\n\n**Additional files imported by changed code**: " ++ toString count ++ "\n\n" ++
    joinWith "" blocks ++
    if count ≤ 10 then "" else "... and " ++ toString (count - 10) ++ " more dependency files\n"

end Context
end PullReview
