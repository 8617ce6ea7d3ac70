import PullReview.Clone.Basic
import PullReview.Json.Access
/-!
# The diff of a clone

The full diff between the two branches, and the paths that it changes.  A path that is not in the clone is shortened
from the left, one directory at a time, until it is; if it never is, it stays as it was.
-/
namespace PullReview

structure Diff where
  full : Json
  files : List String

namespace Diff

def fields (d : Diff) : List (String × Json) := [("full_diff", d.full), ("diff_files", .ofTexts d.files)]

def document (d : Diff) : Json := .object d.fields

end Diff

namespace Clone

open Text

/-- What follows each slash of a path, longest first. -/
def tails : List Char → List (List Char)
  | [] => []
  | c :: cs => if c = '/' then cs :: tails cs else tails cs

def firstPresent (files : Files) (directory : Path) : List String → Except Fault (Option String)
  | [] => .ok none
  | path :: rest => do
    if ← files.hasPath (directory.join path) then return some path else firstPresent files directory rest

/-- The form of a path under which the clone has it. -/
def present (files : Files) (directory : Path) (path : String) : Except Fault String := do
  return (← firstPresent files directory (path :: (tails path.toList).map String.ofList)).getD path

def changedPaths (files : Files) (directory : Path) (names : String) : Except Fault (List String) :=
  (((lines names.toList).map String.ofList).filter (· ≠ "")).mapM (present files directory)

def range (base head : Json) : String := remoteBranch base ++ "..." ++ remoteBranch head

def readDiff (remote : Remote) (directory : Path) (base head : Json) : Run Workspace Diff := do
  command remote .diff (.diff (range base head) false)
  command remote .diff (.diff (range base head) true)
  let names ← Run.of (remote.names.textFor "split")
  return { full := remote.diff, files := ← Run.of (changedPaths (← Run.state).files directory names) }

def diff (remote : Remote) (directory : Path) (base head : Json) : Run Workspace Diff := do
  let _ ← openClone remote directory.toString
  readDiff remote directory base head

def diffNamed (remote : Remote) (directory base head : Json) : Run Workspace Diff := do
  diff remote (← Run.of (Path.named directory)) base head

def readContent (remote : Remote) (branch path : Json) : Run Workspace Json := do
  command remote .content (.content (remoteBranch branch ++ ":" ++ path.display))
  return remote.content

/-- The content of a file on a branch.  The directory is taken as it is written. -/
def content (remote : Remote) (directory branch path : Json) : Run Workspace Json := do
  let _ ← openClone remote directory.display
  readContent remote branch path

end Clone
end PullReview
