import PullReview.Fault
import PullReview.Forge.Timestamp
/-!
# The forge

What the service that hosts the repositories knows about one pull request, and which of its calls are out of order.
Names, texts and numbers are as the service gives them; any part may be missing, or something else may stand in its
place.
-/
namespace PullReview
namespace Forge

inductive Call where
  | repository
  | pull
  | collaborators
  | commits
  | comments
  | createComment
  | createReview
deriving DecidableEq, Repr

inductive Part (α : Type) where
  | told (a : α)
  | untold
  /-- Something else stands in its place. -/
  | other (v : Json)

/-- The part called `name` of a thing of kind `whole`, of which `next` is wanted: only what is told as it should be has
parts of its own. -/
def Part.ask {α : Type} (p : Part α) (name next : String) (whole : Kind := .record) : Except Fault α :=
  match p with
  | .told a => .ok a
  | .untold => .error (.noAttribute whole name)
  | .other v => .error (.noAttribute v.kind next)

def told (v : Option Json) (name : String) (whole : Kind := .record) : Except Fault Json :=
  match v with
  | some v => .ok v
  | none => .error (.noAttribute whole name)

structure Account where
  login : Option Json

structure Permissions where
  push : Option Json
  admin : Option Json
  maintain : Option Json

structure Collaborator where
  login : Option Json
  permissions : Part Permissions

structure PostedComment where
  id : Option Json
  author : Part Account
  body : Option Json
  createdAt : Part Timestamp
  inReplyTo : Option Json

structure Signature where
  name : Option Json
  date : Part Timestamp

structure CommitMessage where
  text : Option Json
  author : Part Signature

structure ChangedFile where
  name : Option Json

structure PushedCommit where
  sha : Option Json
  message : Part CommitMessage
  files : Part (List (Part ChangedFile))

structure Branch where
  name : Option Json

structure PullRequest where
  title : Option Json
  body : Option Json
  author : Part Account
  state : Option Json
  createdAt : Part Timestamp
  base : Part Branch
  head : Part Branch

end Forge

structure Forge where
  owner : Forge.Part Forge.Account
  collaborators : List (Forge.Part Forge.Collaborator)
  pull : Forge.PullRequest
  /-- Oldest first. -/
  commits : List (Forge.Part Forge.PushedCommit)
  comments : List (Forge.Part Forge.PostedComment)
  /-- What a call that is out of order answers. -/
  outage : Forge.Call → Option String

namespace Forge

def call (forge : Forge) (c : Call) : Except Fault Unit :=
  match forge.outage c with
  | some reason => .error (.refused reason)
  | none => .ok ()

def item {α : Type} (p : Part α) (next : String) : Except Fault α := p.ask "" next

end Forge
end PullReview
