import PullReview.Clone.Basic
import PullReview.Digest.Sha1
import PullReview.Json.Access
/-!
# Keeping clones up to date

The clone for a pull request lives in a directory named for the repository and the request.  One that is there is
brought up to date.  If it turns out to belong to another address it is left alone and there is no clone; if it
cannot be opened or brought up to date it is removed and cloned afresh.
-/
namespace PullReview
namespace Clone

/-- The directory below which clones are made, and the name that stands for an address. -/
structure Place where
  root : Path
  nameOf : String → String

def shortName (url : String) : String := Text.clip 8 (Digest.hexText (Digest.sha1 (Text.encodeUtf8 url)))

def Place.directory (place : Place) (url : String) (pull : Json) : Path :=
  place.root.join (place.nameOf url ++ "_pr_" ++ pull.display)

/-- What is to be cloned.  Only a text is an address. -/
structure Request where
  url : Json
  pull : Json
  head : Json
  base : Json

/-- What brings an existing clone up to date; nothing when it is another repository's. -/
def refresh (remote : Remote) (r : Request) (directory : Path) : Run Workspace (Option Path) := do
  let origin ← openClone remote directory.toString
  if r.url.isText origin then
    fetch remote r.base
    fetch remote r.head
    checkout remote r.head
    return some directory
  else
    Run.say ("Different repository URL: " ++ directory.toString)
    return none

def cloneAfresh (remote : Remote) (r : Request) (url : String) (directory : Path) : Run Workspace (Option Path) := do
  cloneFrom remote url directory r.base
  fetch remote r.head
  checkout remote r.head
  return some directory

def prepare (place : Place) (remote : Remote) (r : Request) : Run Workspace (Option Path) := do
  let url ← Run.of (r.url.textFor "encode")
  let directory := place.directory url r.pull
  if ← isPresent directory then
    (refresh remote r directory).orElse fun cause => do
      Run.say ("Failed to update existing repo: " ++ cause.message)
      if ← isPresent directory then removeDirectory directory
      cloneAfresh remote r url directory
  else cloneAfresh remote r url directory

def cleanUp (directory : Path) : Run Workspace Unit := do
  if ← isPresent directory then removeDirectory directory

def cleanUpNamed (directory : Json) : Run Workspace Unit := do cleanUp (← Run.of (Path.named directory))

/-! ## Clones over time -/

structure Call where
  remote : Remote
  url : String
  number : Int
  head : Json
  base : Json

namespace Call

def request (c : Call) : Request := ⟨.text c.url, .int c.number, c.head, c.base⟩

def directory (place : Place) (c : Call) : Path := place.directory c.url (.int c.number)

def result (place : Place) (w : Workspace) (c : Call) : Except Fault (Option Path) :=
  ((prepare place c.remote c.request).start w).1

def after (place : Place) (w : Workspace) (c : Call) : Workspace := ((prepare place c.remote c.request).start w).2.state

end Call

/-- What happens to a workspace: calls, removals, and directories made from elsewhere, as clones or not. -/
inductive Event where
  | call (c : Call)
  | cleanUp (directory : Json)
  | made (directory : Path) (origin : Option String)

def Event.apply (place : Place) (w : Workspace) : Event → Workspace
  | .call c => c.after place w
  | .cleanUp directory => ((cleanUpNamed directory).start w).2.state
  | .made directory origin =>
    let files := ((Files.ensure directory).start w.files).2.state
    { w with files := origin.elim files (files.setOrigin directory.toString) }

/-- The calls in a run of events, each with the workspace that it starts from. -/
def callsFrom (place : Place) (w : Workspace) : List Event → List (Workspace × Call)
  | [] => []
  | .call c :: rest => (w, c) :: callsFrom place (c.after place w) rest
  | e :: rest => callsFrom place (e.apply place w) rest

end Clone
end PullReview
