import PullReview.Forge.Timestamp
import PullReview.Json.Access
import PullReview.Json.Display
/-!
# The head of the document

The document about a pull request that the reviewers are given opens with what is known of the request and its history.
Both the changes and the history come as JSON documents.  A part that is missing has a word that stands for it; a part
of the wrong kind is a fault, and of several the one that stands first in the text is found first.
-/
namespace PullReview
namespace Context

open Text

def description (info : Json) : Except Fault String := do
  let given ← info.field "description" .null
  return (← (if given.isGiven then given else "No description").beginning 200).display

def maintainerList (names : Json) : Except Fault String := if names.isGiven then names.listed else .ok "None found"

def commentKinds (comments : Json) : Except Fault (List Json) := do
  (← comments.elements).mapM fun c => c.field "type" .null

def countOf (kind : String) (kinds : List Json) : Nat := (kinds.filter fun k => k.isText kind).length

/-- The commit at the head of the list. -/
def commitLines (commits : Json) : Except Fault String := do
  if commits.isGiven then
    let c ← commits.first
    let message ← c.field "message" "No message"
    let author ← c.field "author" "Unknown"
    let date ← c.field "date" "Unknown"
    return joinLines
      ["- **Message**: " ++ message.display, "- **Author**: " ++ author.display, "- **Date**: " ++ date.display]
  else return ""

def changedFiles (diff : Json) : Except Fault Json := diff.field "diff_files" (.list [])

def header (diff history : Json) : Except Fault String := do
  let info ← history.field "pr_info" (.object [])
  let commits ← history.field "commits" (.list [])
  let comments ← history.field "all_comments" (.list [])
  let maintainers ← history.field "maintainers" (.list [])
  let kinds ← commentKinds comments
  let title ← info.field "title" "No title"
  let description ← description info
  let author ← info.field "author" "Unknown"
  let state ← info.field "state" "Unknown"
  let fileCount ← (← changedFiles diff).size
  let base ← diff.field "base_branch" "main"
  let head ← diff.field "head_branch" "feature"
  let maintainers ← maintainerList maintainers
  let commitCount ← commits.size
  let commentCount ← comments.size
  let latest ← commitLines commits
  return joinLines
    ["# Pull Request Analysis",
      "",
      "## PR Information",
      "- **Title**: " ++ title.display,
      "- **Description**: " ++ description ++ "...",
      "- **Author**: " ++ author.display,
      "- **State**: " ++ state.display,
      "- **Files Changed**: " ++ toString fileCount,
      "- **Base Branch**: " ++ base.display,
      "- **Head Branch**: " ++ head.display,
      "- **Repository Maintainers**: " ++ maintainers,
      "- **Maintainer Reviews**: " ++ toString (countOf "maintainer_review" kinds),
      "- **Bot Reviews**: " ++ toString (countOf "bot_review" kinds),
      "",
      "## PR History Context",
      "",
      "### Recent Activity",
      "- **Total Commits**: " ++ toString commitCount,
      "- **Total Comments**: " ++ toString commentCount,
      "",
      "### Latest Commit",
      latest]

def summary (diff history : Json) (now : Timestamp) : Except Fault String := do
  let changed ← changedFiles diff
  let commits ← history.field "commits" (.list [])
  let comments ← history.field "all_comments" (.list [])
  let fileCount ← changed.size
  let commitCount ← commits.size
  let commentCount ← comments.size
  let paths ← changed.elements
  return joinLines
    (["## Summary",
      "",
      "- **Total files changed**: " ++ toString fileCount,
      "- **Total commits**: " ++ toString commitCount,
      "- **Total comments**: " ++ toString commentCount,
      "",
      "**Files changed**:"] ++
      paths.map (fun path => "- `" ++ path.display ++ "`") ++
      ["", "**Analysis completed at**: " ++ now.display, ""])

end Context
end PullReview
