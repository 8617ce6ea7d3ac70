import PullReview.Files.Make
import PullReview.Json.Display
/-!
# Clones

Repositories are cloned into directories below one root.  A directory that is a clone carries the address it was cloned
from.  Every command can fail, the opening of a directory too, and every command is kept, whether it succeeds or not.
-/
namespace PullReview
namespace Clone

inductive Operation where
  | clone
  /-- Opening a directory and reading the address that it was cloned from. -/
  | opening
  | fetch
  | checkout
  | diff
  | content
deriving DecidableEq, Repr

inductive Command where
  | clone (url directory : String) (branch : Json)
  | opened (directory : String)
  | fetch (branch : Json)
  /-- Makes the branch anew at its remote counterpart. -/
  | checkout (branch : Json) (start : String)
  | diff (range : String) (namesOnly : Bool)
  | content (spec : String)

structure Remote where
  files : List (String × FileEntry)
  diff : Json
  names : Json
  content : Json
  outage : Operation → Option String
  /-- What goes wrong for once, by the commands given so far. -/
  mishap : List Command → Option String := fun _ => none

def Remote.refusal? (remote : Remote) (op : Operation) (given : List Command) : Option String :=
  (remote.outage op).or (remote.mishap given)

structure Workspace where
  files : Files
  commands : List Command

namespace Workspace

def log (w : Workspace) (c : Command) : Workspace := { w with commands := w.commands ++ [c] }

def atFiles {α : Type} (act : Run Files α) : Run Workspace α := act.within (·.files) fun files w => { w with files }

end Workspace

def command (remote : Remote) (op : Operation) (c : Command) : Run Workspace Unit := do
  Run.update (·.log c)
  match remote.refusal? op (← Run.state).commands with
  | some reason => throw (.refused reason)
  | none => pure ()

/-- Opens a directory as a clone; the address it was cloned from. -/
def openClone (remote : Remote) (directory : String) : Run Workspace String := do
  command remote .opening (.opened directory)
  match (← Run.state).files.origin? directory with
  | some url => return url
  | none => throw (.refused ("not a git repository: " ++ directory))

def remoteBranch (branch : Json) : String := "origin/" ++ branch.display

def fetch (remote : Remote) (branch : Json) : Run Workspace Unit := command remote .fetch (.fetch branch)

def checkout (remote : Remote) (branch : Json) : Run Workspace Unit :=
  command remote .checkout (.checkout branch (remoteBranch branch))

def populate (directory : Path) (content : List (String × FileEntry)) : Run Files Unit :=
  Run.each (fun (path, entry) => Files.bring (directory.join path) entry) content

/-- Clones into a directory that must not be there yet.  It is a clone before the files come, so also when one of them
cannot be written. -/
def cloneFrom (remote : Remote) (url : String) (directory : Path) (branch : Json) : Run Workspace Unit := do
  command remote .clone (.clone url directory.toString branch)
  Workspace.atFiles (Files.makeNew directory)
  Workspace.atFiles (Run.update (·.setOrigin directory.toString url))
  Workspace.atFiles (populate directory remote.files)
  let _ ← openClone remote directory.toString

def isPresent (directory : Path) : Run Workspace Bool := do Run.of ((← Run.state).files.hasPath directory)

def removeDirectory (directory : Path) : Run Workspace Unit := Workspace.atFiles (Files.removeTree directory)

end Clone
end PullReview
