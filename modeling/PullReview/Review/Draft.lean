import PullReview.Json.Access
import PullReview.Json.Display
import PullReview.Review.Summary
/-!
# Drafts

An issue may be given as a document, with any part missing or of any kind.  A draft is looked over in the order in which
its parts will be shown; if every part is of the kind that it has to be, it is an entry like any other.  Parts that are
not shown are not looked at.
-/
namespace PullReview
namespace Review

open Text

structure Draft where
  path : Json
  line : Json
  severity : Json
  description : Json
  current : Json
  fix : Json

namespace Draft

def ofDocument (j : Json) : Draft :=
  let part (name : String) := (j.get? name).getD .null
  { path := part "file_path", line := part "line", severity := part "severity", description := part "description",
    current := part "current_code", fix := part "suggestion" }

def text? : Json → Option String
  | .text s => some s
  | _ => none

def rank (d : Draft) : Rank := (Severity.ofLabel ((text? d.severity).getD "")).rank

def entry (d : Draft) (file : Place) : Entry :=
  { file, line := d.line.display, flushLine := flushRight (d.line.whole?.getD 0), rank := d.rank,
    description := (text? d.description).getD "", current := shownCode (text? d.current),
    fix := shownCode (text? d.fix) }

/-- The file of a draft: that of the first one before it that is `alike`, or else a file of its own, by the number of
drafts before. -/
def placeAfter (alike : Draft → Draft → Bool) (before : List Draft) (d : Draft) : Place :=
  match before.findIdx? (alike · d), before.find? (alike · d) with
  | some number, some first => ⟨first.path.display, number⟩
  | _, _ => ⟨d.path.display, before.length⟩

/-- Drafts with their files; `before` are those that stand before them. -/
def placesFrom (alike : Draft → Draft → Bool) (before : List Draft) : List Draft → List (Place × Draft)
  | [] => []
  | d :: rest => (placeAfter alike before d, d) :: placesFrom alike (before ++ [d]) rest

def places (alike : Draft → Draft → Bool) (ds : List Draft) : List (Place × Draft) := placesFrom alike [] ds

def samePath (d e : Draft) : Bool := d.path.same e.path

/-- Each rank has files of its own. -/
def sameRankAndPath (d e : Draft) : Bool := d.rank = e.rank && samePath d e

def entries (alike : Draft → Draft → Bool) (ds : List Draft) : List Entry :=
  (places alike ds).map fun (file, d) => d.entry file

/-- Code is a text unless it counts as missing. -/
def lookAtCode (code : Json) : Except Fault Unit := do
  if code.isGiven then
    let _ ← code.textFor "strip"

def lookAtLine (d : Draft) : Except Fault Unit :=
  match d.line.whole? with
  | some _ => .ok ()
  | none => .error (.notWhole d.line.kind)

def byFile (ds : List Draft) : List Draft :=
  (groupBy Prod.fst (places samePath ds)).flatMap fun (_, group) => group.map Prod.snd

def lookAtRank (ds : List Draft) : Except Fault Unit := do
  let _ ← Json.textsFrom 0 ((ds.take 2).map (·.description))
  ds.forM fun d => d.path.requireKey
  (byFile ds).forM fun d => lookAtCode d.current

def lookAtSection (ds : List Draft) : Except Fault Unit := do
  lookAtRank (ds.filter fun d => d.rank = .critical)
  lookAtRank (ds.filter fun d => d.rank = .medium)

/-- Only drafts with a fix are shown as changes. -/
def lookAtChange (d : Draft) : Except Fault Unit := do
  if d.fix.isGiven then
    d.lookAtLine
    lookAtCode d.current
    lookAtCode d.fix

/-- The section for drafts; without drafts the topic is not looked at. -/
def toSection (ds : List Draft) (topic : Json) : Except Fault String := do
  if ds.isEmpty then return ""
  else
    let topic ← topic.textFor "lower"
    lookAtSection ds
    return severitySection (entries sameRankAndPath ds) topic

end Draft

structure DraftFindings where
  security : List Draft
  performance : List Draft
  quality : List Draft
  qualityReport : Json
  failed : Json

namespace DraftFindings

def failedTitles (f : DraftFindings) : Except Fault (List String) :=
  if f.failed.isGiven then
    match f.failed.elements with
    | .ok titles => Json.textsFrom 0 titles
    | .error _ => .error .joinOfSingle
  else .ok []

def showsReport (f : DraftFindings) : Except Fault Bool := do
  if f.qualityReport.isGiven then return !(← f.qualityReport.holds "No major quality") else return false

/-- A report that is shown has to be a text, which turns out when all parts are put together. -/
def lookAtReport (f : DraftFindings) (failed : List String) : Except Fault Unit := do
  if (← f.showsReport) && f.qualityReport.kind ≠ .text then
    .error (.joinItem ((failureNote failed).length + 3) f.qualityReport.kind)

def isClean (f : DraftFindings) : Bool := f.security.isEmpty && f.performance.isEmpty && f.quality.isEmpty

def review (f : DraftFindings) : Except Fault String := do
  f.quality.forM fun d => d.path.requireKey
  let failed ← f.failedTitles
  let findings : Findings :=
    { security := Draft.entries Draft.sameRankAndPath f.security,
      performance := Draft.entries Draft.sameRankAndPath f.performance,
      quality := Draft.entries Draft.samePath f.quality, qualityReport := Draft.text? f.qualityReport, failed }
  if f.isClean then return findings.review
  else
    let _ ← f.showsReport
    Draft.lookAtSection f.security
    Draft.lookAtSection f.performance
    (Draft.byFile f.quality).forM Draft.lookAtChange
    f.lookAtReport failed
    return findings.review

end DraftFindings
end Review
end PullReview
