import PullReview.Keyed
import PullReview.Review.Pipeline
/-!
# The board

A review as its stations see it.  What is known stands on a board of channels.  A station reads the whole board and
hands in values for some of the channels, and each channel has a rule for what a new value makes of the one before.
Stations work in waves: those of one wave see the same board, and what they hand in is taken in one after the other.
-/
namespace PullReview
namespace Review

inductive Station where
  | retrieval
  | reviewer (s : Specialty)
  | aggregation
deriving DecidableEq, Repr

namespace Station

def next : Station → List Station
  | .retrieval => Specialty.all.map .reviewer
  | .reviewer _ => [.aggregation]
  | .aggregation => []

def following (wave : List Station) : List Station := distinct (wave.flatMap next)

end Station

inductive Channel where
  | event
  | changes
  | changedFiles
  | description
  | found
  | graphs
  | imports
  | learnings
  | context
  | status (s : Station)
  | report (s : Specialty)
  | summary
  | inlineComments
  | total
  | errors
  | warnings
deriving DecidableEq, Repr

/-- What a new value makes of the one before. -/
inductive Rule where
  | replace
  | merge
  | append
deriving DecidableEq, Repr

/-- Only lists can be appended to each other. -/
def Rule.apply : Rule → Json → Json → Option Json
  | .replace, _, new => some new
  | .merge, old, new => some (old.merge new)
  | .append, .list old, .list new => some (.list (old ++ new))
  | .append, _, _ => none

namespace Channel

def rule : Channel → Rule
  | .event | .changes | .found => .merge
  | .changedFiles | .graphs | .imports | .learnings | .inlineComments | .errors | .warnings => .append
  | .description | .context | .status _ | .report _ | .summary | .total => .replace

def name : Channel → String
  | .event => "pr_data"
  | .changes => "diff_data"
  | .changedFiles => "changed_files"
  | .description => "pr_description"
  | .found => "vector_context"
  | .graphs => "code_graphs"
  | .imports => "import_files"
  | .learnings => "learnings"
  | .context => "comprehensive_context"
  | .status .retrieval => "context_fetcher_status"
  | .status (.reviewer .security) => "security_agent_status"
  | .status (.reviewer .quality) => "code_quality_agent_status"
  | .status (.reviewer .performance) => "performance_agent_status"
  | .status .aggregation => "aggregator_status"
  | .report .security => "security_analysis"
  | .report .quality => "code_quality_analysis"
  | .report .performance => "performance_analysis"
  | .summary => "final_review"
  | .inlineComments => "inline_comments"
  | .total => "total_issues"
  | .errors => "errors"
  | .warnings => "warnings"

def all : List Channel :=
  [.event, .changes, .changedFiles, .description, .found, .graphs, .imports, .learnings, .context, .status .retrieval] ++
    Specialty.all.map (fun s => .status (.reviewer s)) ++ [.status .aggregation] ++ Specialty.all.map .report ++
    [.summary, .inlineComments, .total, .errors, .warnings]

end Channel

/-! ## What stations hand in -/

abbrev Update := List (Channel × Json)

namespace Update

/-- Errors are handed in only when there are some. -/
def telling (errors : List String) : Update := if errors.isEmpty then [] else [(.errors, .ofTexts errors)]

def ofRetrieved : Store.Retrieved → Update
  | .completed graphs imports learnings text =>
    [(.found, .object [("code_graphs", .list graphs), ("import_files", .list imports), ("learnings", .list learnings)]),
      (.graphs, .list graphs), (.imports, .list imports), (.learnings, .list learnings), (.context, text),
      (.status .retrieval, Status.completed.name)]
  | .failed cause => (.status .retrieval, Status.failed.name) :: telling ["Context fetcher failed: " ++ cause.message]

def ofOpinion (s : Specialty) (o : Opinion) : Update :=
  (.report s, .ofOption o.report) :: (.status (.reviewer s), o.status.name) :: telling o.errors

/-- Without a review there is no new total. -/
def ofVerdict (v : Verdict) : Update :=
  (.summary, v.review) :: (.inlineComments, .list []) :: (.status .aggregation, v.status.name) ::
    match v with
    | .completed _ total => [(.total, .int total)]
    | .failed _ => telling v.errors

end Update

/-! ## The board at work -/

abbrev Board := Channel → Json

namespace Board

def opened (m : Matter) : Except Fault Board := do
  let changed ← (if m.changes.isGiven then m.changes.field "diff_files" (.list []) else .ok (.list []))
  let description ← (if m.event.isGiven then m.event.field "body" "" else .ok "")
  return fun
    | .event => if m.event.isGiven then m.event else .object []
    | .changes => if m.changes.isGiven then m.changes else .object [("full_diff", m.diff)]
    | .changedFiles => changed
    | .description => description
    | .found => .object []
    | .context => m.context
    | .status _ => Status.pending.name
    | .report _ | .summary => ""
    | .total => .int 0
    | .graphs | .imports | .learnings | .inlineComments | .errors | .warnings => .list []

def state (b : Board) : Json := .object (Channel.all.map fun c => (c.name, b c))

def reports (b : Board) : Reports :=
  { report := fun s => b (.report s)
    status := fun s => Status.all.find? fun status => (b (.status (.reviewer s))).isText status.name
    changedFiles := b .changedFiles }

def set (b : Board) (c : Channel) (v : Json) : Board := fun d => if d = c then v else b d

def put (b : Board) (c : Channel) (v : Json) : Option Board := (c.rule.apply (b c) v).map (b.set c)

def absorb (b : Board) (u : Update) : Option Board := u.foldlM (fun b entry => b.put entry.1 entry.2) b

variable (svc : Store.Service) (oracle : Oracle)

def handedIn (b : Board) : Station → Run Desk Update
  | .retrieval => do return .ofRetrieved (← Desk.atStore (Store.retrieve svc b.state))
  | .reviewer s => do return .ofOpinion s (← Desk.atModel (opinion oracle b.state s))
  | .aggregation => return .ofVerdict b.reports.aggregate

/-- One wave of stations, all on the same board; nothing is left of the board if a value does not fit its channel. -/
def afterWave (b : Board) (wave : List Station) : Run Desk (Option Board) := do
  return (← Run.mapEach (handedIn svc oracle b) wave).foldlM absorb b

def afterWaves (b : Board) : List (List Station) → Run Desk (Option Board)
  | [] => return some b
  | wave :: rest => do
    match ← afterWave svc oracle b wave with
    | some next => afterWaves next rest
    | none => return none

def review (waves : List (List Station)) (m : Matter) : Run Desk (Option Board) := do
  afterWaves svc oracle (← Run.of (opened m)) ([.retrieval] :: waves)

end Board
end Review
end PullReview
