import PullReview.Clone.Diff
import PullReview.Clone.Update
import PullReview.Context.Build
import PullReview.Forge.Post
import PullReview.Review.Pipeline
import PullReview.Webhook.Lesson
/-!
# Processing a webhook

The whole work on a pull request: clone it, index its Python files, fetch its history, write the document about it,
have it reviewed, keep what can be learned, post the review.  Each of these goes on after a failure of those before
it, except that without a clone, a diff or a document there is nothing to go on with.
-/
namespace PullReview
namespace Webhook

open Text

structure Request where
  pull : Json
  installation : Json
  number : Json
  title : Json
  url : Json
  repository : Json
  base : Json
  head : Json

def branchOf (pull : Json) (side : String) (fallback : String) : Except Fault Json := do
  (← pull.field side (.object [])).field "ref" fallback

def Request.read (payload : Json) : Except Fault Request := do
  let pull ← payload.field "pull_request" (.object [])
  let repository ← payload.field "repository" (.object [])
  let installation ← (← payload.field "installation" (.object [])).field "id" .null
  let number ← pull.field "number" .null
  let title ← pull.field "title" ""
  let url ← repository.field "clone_url" ""
  let fullName ← repository.field "full_name" ""
  let base ← branchOf pull "base" "main"
  let head ← branchOf pull "head" ""
  return { pull, installation, number, title, url, repository := fullName, base, head }

/-- When a run turns to the store: with the graph and with the imports of the changed file at a place, and with the
lesson at a place. -/
inductive Moment where
  | graph (place : Nat)
  | imports (place : Nat)
  | lesson (place : Nat)
deriving DecidableEq, Repr

structure World where
  remote : Clone.Remote
  parse : Language → List UInt8 → Except Fault Node
  forge : Forge
  /-- Why there is no connection to read the history by. -/
  historyOutage : Option String
  /-- Why the forge does not take credentials. -/
  signInRefusal : Forge.Credentials → Option String
  store : Store.Service
  oracle : Review.Oracle
  machinery : Review.Machinery
  now : Timestamp
  /-- What goes wrong with the store's services at single moments. -/
  mishap : Moment → Store.Mishap := fun _ => {}

def World.storeAt (world : World) (m : Moment) : Store.Service := world.store.amid (world.mishap m)

structure Settings where
  place : Clone.Place
  botName : String
  application : Nat
  keySetting : String

structure Bench where
  workspace : Clone.Workspace
  desk : Review.Desk
  credentials : Option Forge.Credentials
  posts : List Forge.Post

namespace Bench

def atWorkspace {α : Type} (act : Run Clone.Workspace α) : Run Bench α :=
  act.within (·.workspace) fun workspace b => { b with workspace }

def atDesk {α : Type} (act : Run Review.Desk α) : Run Bench α := act.within (·.desk) fun desk b => { b with desk }

def atStore {α : Type} (act : Run Store α) : Run Bench α := atDesk (Review.Desk.atStore act)

def atPosts {α : Type} (act : Run (List Forge.Post) α) : Run Bench α :=
  act.within (·.posts) fun posts b => { b with posts }

end Bench

/-! ## The steps -/

def clone (settings : Settings) (world : World) (r : Request) : Run Bench (Option Path) :=
  Bench.atWorkspace
    (Clone.prepare settings.place world.remote { url := r.url, pull := r.number, head := r.head, base := r.base })

/-- The diff of the clone; without a clone there is none. -/
def diff (world : World) (r : Request) (directory : Option Path) : Run Bench Diff :=
  match directory with
  | none => throw (.notAPath .null)
  | some directory => Bench.atWorkspace (Clone.diff world.remote directory r.base r.head)

def indexFile (world : World) (c : Context.Checkout) (path : String) (place : Nat) : Run Store Unit := do
  let written := c.directory.toString ++ "/" ++ path
  let source ← Run.of (c.files.readText written)
  let (root, _) ← Run.of (c.parseFile .python written)
  let _ ← Store.indexGraph (world.storeAt (.graph place)) path (Graph.ofTree .python source root)
  let _ ← Store.indexImports (world.storeAt (.imports place)) path source (.ofTexts (root.imports .python source))

/-- Indexes a changed file, which comes with its place, if it is one of Python. -/
def indexChanged (world : World) (c : Context.Checkout) (file : String × Nat) : Run Store Unit :=
  if endsWith ".py" file.1 then
    (indexFile world c file.1 file.2).orElse fun cause =>
      Run.say ("Error processing file " ++ file.1 ++ ": " ++ cause.message)
  else pure ()

def payloadHistory (pull : Json) (cause : Fault) : Except Fault History := do
  let title ← pull.field "title" "Unknown"
  let description ← pull.field "body" ""
  let author ← (← pull.field "user" (.object [])).field "login" "Unknown"
  let state ← pull.field "state" "Unknown"
  let createdAt ← pull.field "created_at" ""
  let base ← branchOf pull "base" "main"
  let head ← branchOf pull "head" "feature"
  let info := .object [("title", title), ("description", description), ("author", author), ("state", state),
    ("created_at", createdAt), ("base_branch", base), ("head_branch", head)]
  return { info, maintainers := some [], failure := some cause.message }

def history (settings : Settings) (world : World) (r : Request) : Run Bench History :=
  match world.historyOutage with
  | none => world.forge.fetchHistory settings.botName
  | some reason => do
    let cause := Fault.refused reason
    Run.say ("Error fetching PR history: " ++ cause.message)
    Run.of (payloadHistory r.pull cause)

/-- The changes as the document is built from them and as the reviewers are given them. -/
def changes (diff : Diff) (title description : Json) : Json :=
  .object (diff.fields ++ [("pr_title", title), ("pr_description", description)])

def Outcome.document (o : Review.Outcome) : Json :=
  .object [("summary", .text o.summary), ("inline_comments", .list []), ("total_issues", .int o.total)]

/-- The review: an object, or a text if there is none. -/
def review (world : World) (matter : Review.Matter) : Run Bench Json :=
  made.orElse fun cause => do
    Run.say ("Error generating AI review: " ++ cause.message)
    return .text ("Error generating review: " ++ cause.message)
where
  made : Run Bench Json := do
    return Outcome.document (← Bench.atDesk (Review.run world.machinery world.store world.oracle matter))

def indexLesson (world : World) (lesson : Store.Learning × Nat) : Run Store Unit := do
  let _ ← Store.indexLearning (world.storeAt (.lesson lesson.2)) lesson.1

def learn (world : World) (h : History) (context : String) : Run Bench Unit :=
  if h.commits.isEmpty || h.comments.isEmpty then pure ()
  else
    (Bench.atStore (Run.each (indexLesson world) (lessons h context).zipIdx)).orElse fun cause =>
      Run.say ("Error indexing learnings: " ++ cause.message)

/-! ## Posting -/

def remark (j : Json) : Except Fault Forge.Remark := do
  let path ← j.require "path"
  let line ← j.require "line"
  let body ← j.require "body"
  let suggestion ← j.field "suggestion" .null
  return { path, line, body, suggestion }

/-- Posts a review document: with remarks as a review, else as a comment. -/
def postDocument (world : World) (r : Request) (document : Json) : Run (List Forge.Post) Unit := do
  match document with
  | .object _ =>
    let summary ← Run.of (document.field "summary" "")
    let inline ← Run.of (document.field "inline_comments" (.list []))
    let total ← Run.of (document.field "total_issues" (.int 0))
    if inline.isGiven then
      let remarks ← Run.of (do (← inline.elements).mapM remark)
      let event := if ← Run.of total.isPositive then "REQUEST_CHANGES" else Forge.usualEvent
      world.forge.postReview r.repository r.number summary event remarks
    else world.forge.postComment r.repository r.number summary
  | text => world.forge.postComment r.repository r.number text

def post (settings : Settings) (world : World) (r : Request) (document : Json) : Run Bench Unit :=
  signedIn.orElse fun cause => Run.say ("Error posting review to GitHub: " ++ cause.message)
where
  signedIn : Run Bench Unit := do
    let files := (← Run.state).workspace.files
    let credentials ← Run.of
      (Forge.signIn files world.signInRefusal settings.application settings.keySetting r.installation)
    Run.update fun b => { b with credentials := some credentials }
    Bench.atPosts (postDocument world r document)

/-! ## The run -/

def finish (settings : Settings) (world : World) (r : Request) (matter : Review.Matter) (h : History)
    (context : String) : Run Bench Unit := do
  let document ← review world matter
  learn world h context
  post settings world r document

/-- What is found out before anything is indexed: what the payload says, where its clone is and what it changes. -/
def survey (settings : Settings) (world : World) (payload : Json) : Run Bench (Request × Option Path × Diff) := do
  let r ← Run.of (Request.read payload)
  let directory ← clone settings world r
  return (r, directory, ← diff world r directory)

def describe (world : World) (checkout : Context.Checkout) (changes history : Json) : Run Bench (Option String) :=
  (do return some (← Context.build checkout changes history world.now) : Run Bench (Option String)).orElse
    fun cause => do
      Run.say ("Context building failed: " ++ cause.message)
      return none

def gather (settings : Settings) (world : World) (payload : Json) (r : Request) (directory : Option Path)
    (diff : Diff) : Run Bench (Option (Review.Matter × History × String)) := do
  let checkout : Context.Checkout :=
    { files := (← Run.state).workspace.files, directory := directory.getD ⟨"", []⟩, parse := world.parse }
  Bench.atStore (Run.each (indexChanged world checkout) diff.files.zipIdx)
  let h ← history settings world r
  let description ← Run.of (r.pull.field "body" "")
  let changes := changes diff r.title description
  let context ← describe world checkout changes h.document
  return context.map fun text : String => ({ diff := diff.full, context := text, event := payload, changes }, h, text)

def afterDiff (settings : Settings) (world : World) (payload : Json) (r : Request) (directory : Option Path)
    (diff : Diff) : Run Bench Unit := do
  match ← gather settings world payload r directory diff with
  | none => pure ()
  | some (matter, h, context) => finish settings world r matter h context

def work (settings : Settings) (world : World) (payload : Json) : Run Bench Unit := do
  let (r, directory, diff) ← survey settings world payload
  afterDiff settings world payload r directory diff

/-- Processes a payload.  Nothing escapes: what stops the work is reported. -/
def process (settings : Settings) (world : World) (payload : Json) : Run Bench Unit :=
  (work settings world payload).orElse fun cause => Run.say ("Error processing webhook: " ++ cause.message)

end Webhook
end PullReview
