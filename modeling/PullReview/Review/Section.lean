import PullReview.Keyed
import PullReview.Review.Entry
import PullReview.Text.Lower
import PullReview.Text.Search
/-!
# The section of one specialty

Issues of one kind are shown by rank and, within a rank, by file.  An alert with their number stands above them; a tip
stands below when some issue is critical.
-/
namespace PullReview
namespace Review

open Text

def issueWord (n : Nat) : String := if n = 1 then "issue" else "issues"

def fence : String := "```"

def fenced (language : String) (lines : List String) : List String := [fence ++ language] ++ lines ++ [fence ++ "\n"]

def ofRank (rank : Rank) (entries : List Entry) : List Entry := entries.filter fun e => e.rank = rank

def hasCritical (entries : List Entry) : Bool := !(ofRank .critical entries).isEmpty

def alert (entries : List Entry) (topic : String) : List String :=
  let found := "> Found " ++ toString entries.length ++ " " ++ lower topic ++ " " ++ issueWord entries.length
  if hasCritical entries then ["\n> [!WARNING]", found ++ " that need attention before merging.\n"]
  else ["\n> [!CAUTION]", found ++ " to review.\n"]

/-- The first two descriptions, and how many more there are. -/
def impact (entries : List Entry) : String :=
  let shown := joinWith " " ((entries.take 2).map (·.description))
  if entries.length ≤ 2 then shown else shown ++ " (and " ++ toString (entries.length - 2) ++ " more)"

def codeLine? (e : Entry) : Option String := e.current.map fun code => "line " ++ e.line ++ ": " ++ code

def fileBlock (path : String) (entries : List Entry) : List String :=
  let opening := "\n📄 **" ++ path ++ "**\n" ++ fence ++ "python"
  [opening] ++ entries.filterMap codeLine? ++ [fence ++ "\n"]

def rankBlock (rank : Rank) (entries : List Entry) : List String :=
  let title := "### " ++ rank.sign ++ " " ++ rank.label ++ " (" ++ toString entries.length ++ " " ++
    issueWord entries.length ++ ")\n"
  [title, "> **Impact:** " ++ impact entries ++ "\n"] ++
    (groupBy (·.file) entries).flatMap fun (file, group) => fileBlock file.path group

def rankBlocks (entries : List Entry) : List (List String) :=
  [Rank.critical, Rank.medium].filterMap fun rank =>
    match ofRank rank entries with
    | [] => none
    | group => some (rankBlock rank group)

def tip (entries : List Entry) : List String :=
  if hasCritical entries then ["\n> [!TIP]", "> Fix CRITICAL issues before merging to production.\n"] else []

def sectionParts (entries : List Entry) (topic : String) : List String :=
  alert entries topic ++ ((rankBlocks entries).intersperse ["\n---\n"]).flatten ++ tip entries

def severitySection (entries : List Entry) (topic : String) : String :=
  if entries.isEmpty then "" else joinLines (sectionParts entries topic)

end Review
end PullReview
