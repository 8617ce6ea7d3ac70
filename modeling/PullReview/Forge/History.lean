import PullReview.Forge.Basic
import PullReview.Json.Access
import PullReview.Run
import PullReview.Text.Lower
/-!
# The history of a pull request

Commits and comments of a pull request.  A comment is a review when the bot or a maintainer of the repository wrote
it, whatever the case of the letters in the name; anyone else's is feedback.  If anything that is needed is not to
be had, the history is empty and says why.
-/
namespace PullReview

inductive CommentKind where
  | botReview
  | maintainerReview
  | userFeedback
deriving DecidableEq, Repr

def CommentKind.name : CommentKind → String
  | .botReview => "bot_review"
  | .maintainerReview => "maintainer_review"
  | .userFeedback => "user_feedback"

structure Comment where
  kind : CommentKind
  body : Json
  author : String
  createdAt : String
  id : Json
  inReplyTo : Json

namespace Comment

/-- Feedback says what it answers; a review has a name to be answered by. -/
def document (c : Comment) : Json :=
  let common : List (String × Json) :=
    [("type", c.kind.name), ("comment", c.body), ("author", c.author), ("created_at", c.createdAt)]
  match c.kind with
  | .userFeedback => .object (common ++ [("in_reply_to", c.inReplyTo)])
  | .botReview | .maintainerReview => .object (common ++ [("comment_id", c.id), ("user_response", .list [])])

end Comment

structure Commit where
  sha : Json
  message : Json
  author : Json
  date : String
  files : List Json

def Commit.document (c : Commit) : Json :=
  .object [("sha", c.sha), ("message", c.message), ("author", c.author), ("date", c.date),
    ("files_changed", .list c.files)]

structure History where
  /-- What is known of the pull request itself. -/
  info : Json
  commits : List Commit := []
  comments : List Comment := []
  maintainers : Option (List Json) := none
  /-- Why there is no history, if there is none. -/
  failure : Option String := none

namespace History

def document (h : History) : Json :=
  .object ([("pr_info", h.info), ("commits", .list (h.commits.map (·.document))),
      ("all_comments", .list (h.comments.map (·.document)))] ++
    (h.maintainers.map fun names => ("maintainers", .list names)).toList ++
    (h.failure.map fun reason => ("error", .text reason)).toList)

end History

namespace Forge

/-- Someone who may push, administer or maintain may write.  Whether they may maintain need not be told; what else is
not told is missed only when it is asked for. -/
def mayWrite (p : Permissions) : Except Fault Bool := do
  if (← told p.push "push").isGiven then return true
  if (← told p.admin "admin").isGiven then return true
  return p.maintain.any (·.isGiven)

def writer? (c : Part Collaborator) : Except Fault (Option Json) := do
  let c ← item c "permissions"
  if ← mayWrite (← c.permissions.ask "permissions" "push") then return some (← told c.login "login") else return none

def ownerName (forge : Forge) : Except Fault Json := do told (← forge.owner.ask "owner" "login").login "login"

/-- The collaborators who may write, then the owner. -/
def maintainersOf (forge : Forge) : Except Fault (List Json) := do
  forge.call .collaborators
  let writers ← forge.collaborators.filterMapM writer?
  let owner ← forge.ownerName
  return if writers.any owner.same then writers else writers ++ [owner]

def hasOwner (forge : Forge) : Bool :=
  match forge.owner with
  | .told _ => true
  | .untold => false
  | .other v => v.isGiven

/-- The maintainers of the repository; just the owner, if there is one, when they are not to be had. -/
def maintainers (forge : Forge) : Except Fault (List Json) :=
  match forge.maintainersOf with
  | .ok names => .ok names
  | .error _ => if forge.hasOwner then do return [← forge.ownerName] else .ok []

def isoText (t : Part Timestamp) (name : String) (whole : Kind := .record) : Except Fault String := do
  return (← t.ask name "isoformat" whole).text

/-- The names of the files that a commit changes.  What is no list has no files in it, unless it is a text: its
characters are taken for files. -/
def fileNames (files : Part (List (Part ChangedFile))) : Except Fault (List Json) :=
  match files with
  | .told fs => fs.mapM fun f => do told (← item f "filename").name "filename"
  | .untold => .error (.noAttribute .record "files")
  | .other v => do (← v.elements).mapM fun e => .error (.noAttribute e.kind "filename")

def commit (c : Part PushedCommit) : Except Fault Commit := do
  let c ← item c "sha"
  let sha ← told c.sha "sha"
  let message ← c.message.ask "commit" "message"
  let text ← told message.text "message"
  let signature ← message.author.ask "author" "name"
  let author ← told signature.name "name"
  let date ← isoText signature.date "date"
  return { sha, message := text, author, date, files := ← fileNames c.files }

def fetchCommits (forge : Forge) : Except Fault (List Commit) := do
  forge.call .commits
  forge.commits.mapM commit

def lowered (name : Json) : Except Fault String := do return Text.lower (← name.textFor "lower")

def isAmong (name : String) (maintainers : Json) : Except Fault Bool := do
  return (← (← maintainers.elements).mapM lowered).contains name

/-- What a comment by this author is.  Maintainers are looked at only when the bot is not the author. -/
def kindOf (bot maintainers author : Json) : Except Fault CommentKind := do
  let name ← lowered author
  if name = (← lowered bot) then return .botReview
  if ← isAmong name maintainers then return .maintainerReview
  return .userFeedback

/-- The name that a comment is known by.  Reviews are looked up by theirs; feedback needs none. -/
def commentId (kind : CommentKind) (c : PostedComment) : Except Fault Json :=
  match kind with
  | .userFeedback => .ok .null
  | .botReview | .maintainerReview => do
    let id ← told c.id "id"
    id.requireKey
    return id

def sort (bot maintainers : Json) (c : Part PostedComment) : Except Fault Comment := do
  let c ← item c "user"
  let login ← told (← c.author.ask "user" "login").login "login"
  let kind ← kindOf bot maintainers login
  let id ← commentId kind c
  let body ← told c.body "body"
  return { kind, body, author := ← login.textFor "lower", createdAt := ← isoText c.createdAt "created_at", id,
           inReplyTo := c.inReplyTo.getD .null }

def fetchComments (forge : Forge) (bot maintainers : Json) : Except Fault (List Comment) := do
  forge.call .comments
  forge.comments.mapM (sort bot maintainers)

def fetchInfo (pull : PullRequest) : Except Fault Json := do
  let title ← told pull.title "title" .pullRequest
  let body ← told pull.body "body" .pullRequest
  let author ← told (← pull.author.ask "user" "login" .pullRequest).login "login"
  let state ← told pull.state "state" .pullRequest
  let createdAt ← isoText pull.createdAt "created_at" .pullRequest
  let base ← told (← pull.base.ask "base" "ref" .pullRequest).name "ref"
  let head ← told (← pull.head.ask "head" "ref" .pullRequest).name "ref"
  return .object [("title", title), ("description", body), ("author", author), ("state", state),
    ("created_at", createdAt), ("base_branch", base), ("head_branch", head)]

def history? (forge : Forge) (bot : String) : Except Fault History := do
  forge.call .repository
  forge.call .pull
  let maintainers ← forge.maintainers
  let info ← fetchInfo forge.pull
  let commits ← forge.fetchCommits
  let comments ← forge.fetchComments bot (.list maintainers)
  return { info, commits, comments, maintainers := some maintainers }

def noHistory (cause : Fault) : History :=
  { info := .object [("title", "N/A"), ("description", "N/A"), ("author", "N/A")], failure := some cause.message }

def fetchHistory {σ : Type} (forge : Forge) (bot : String) : Run σ History :=
  match forge.history? bot with
  | .ok h => pure h
  | .error cause => do
    Run.say ("Error fetching PR context: " ++ cause.message)
    return noHistory cause

end Forge
end PullReview
