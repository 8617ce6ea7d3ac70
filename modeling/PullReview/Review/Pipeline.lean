import PullReview.Review.Aggregate
import PullReview.Review.Opinion
import PullReview.Store.Retrieve
/-!
# A review from start to end

First the store is asked for what it knows about the changed files; what it answers becomes the context.  Then the three
reviewers form their opinions on the same material, none of them seeing another's.  Then the opinions are aggregated.
-/
namespace PullReview
namespace Review

structure Dossier where
  /-- The changes, an object with the full diff. -/
  diff : Json
  context : Json
  changedFiles : Json
  retrieval : Status := .pending
  report : Specialty → Json := fun _ => ""
  status : Specialty → Status := fun _ => .pending
  verdict : Option Verdict := none
  errors : List String := []

namespace Dossier

def state (d : Dossier) : Json :=
  .object [("diff_data", d.diff), ("changed_files", d.changedFiles), ("comprehensive_context", d.context)]

/-- The dossier after retrieval.  When retrieval fails, the caller's context stays. -/
def withRetrieved (d : Dossier) : Store.Retrieved → Dossier
  | .completed _ _ _ text => { d with context := text, retrieval := .completed }
  | .failed cause =>
    { d with retrieval := .failed, errors := d.errors ++ ["Context fetcher failed: " ++ cause.message] }

def withOpinion (d : Dossier) (s : Specialty) (o : Opinion) : Dossier :=
  { d with
    report := fun t => if t = s then .ofOption o.report else d.report t
    status := fun t => if t = s then o.status else d.status t
    errors := d.errors ++ o.errors }

def reports (d : Dossier) : Reports :=
  { report := d.report, status := fun s => some (d.status s), changedFiles := d.changedFiles }

def withVerdict (d : Dossier) (v : Verdict) : Dossier :=
  { d with verdict := some v, errors := d.errors ++ v.errors }

end Dossier

structure Desk where
  store : Store
  calls : List ModelCall

namespace Desk

def atStore {α : Type} (act : Run Store α) : Run Desk α := act.within (·.store) fun store d => { d with store }

def atModel {α : Type} (act : Run (List ModelCall) α) : Run Desk α :=
  act.within (·.calls) fun calls d => { d with calls }

end Desk

/-- The order in which the opinions are taken in. -/
def order : List Specialty := [.quality, .performance, .security]

def opinions (oracle : Oracle) (state : Json) : Run Desk (List (Specialty × Opinion)) :=
  Run.mapEach (fun s => do return (s, ← Desk.atModel (opinion oracle state s))) order

def examine (svc : Store.Service) (oracle : Oracle) (d : Dossier) : Run Desk Dossier := do
  let d := d.withRetrieved (← Desk.atStore (Store.retrieve svc d.state))
  let formed ← opinions oracle d.state
  let d := formed.foldl (fun d (s, o) => d.withOpinion s o) d
  return d.withVerdict d.reports.aggregate

structure Outcome where
  summary : String
  total : Nat
deriving DecidableEq, Repr

def Dossier.outcome (d : Dossier) : Outcome :=
  match d.verdict with
  | some (.completed review total) => ⟨review, total⟩
  | some v => ⟨v.review, 0⟩
  | none => ⟨"", 0⟩

structure Machinery where
  assembly : Option String := none
  operation : Option String := none

/-- What a review is asked to look at, all of it as the caller gives it. -/
structure Matter where
  diff : Json
  context : Json
  /-- The event that led to the review; its text is read but not used. -/
  event : Json
  /-- The changes, an object with the full diff and the changed files; if there is none, `diff` is the full diff. -/
  changes : Json

/-- The dossier at the start.  An event or changes of the wrong kind are the caller's fault. -/
def Dossier.opened (m : Matter) : Except Fault Dossier := do
  let changed ← if m.changes.isGiven then m.changes.field "diff_files" (.list []) else pure (.list [])
  let _ ← if m.event.isGiven then m.event.field "body" "" else pure ""
  return { diff := if m.changes.isGiven then m.changes else .object [("full_diff", m.diff)], context := m.context,
           changedFiles := changed }

/-- The review of a pull request.  Machinery that cannot be assembled is the caller's concern; a breakdown in operation
makes a review that says so. -/
def run (machinery : Machinery) (svc : Store.Service) (oracle : Oracle) (m : Matter) : Run Desk Outcome := do
  match machinery.assembly with
  | some reason => throw (.refused reason)
  | none =>
    let d ← Run.of (Dossier.opened m)
    match machinery.operation with
    | some reason => return ⟨"Multi-agent review failed: " ++ reason, 0⟩
    | none => return (← examine svc oracle d).outcome

end Review
end PullReview
