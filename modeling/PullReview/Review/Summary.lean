import PullReview.Review.Section
/-!
# The review as posted

Everything found goes into one text with parts that fold away.  Security and performance issues are shown by rank, the
quality report as it was written, and its fixes as a diff for each file.
-/
namespace PullReview
namespace Review

open Text

structure Findings where
  security : List Entry
  performance : List Entry
  quality : List Entry
  /-- The whole quality report, which is shown too. -/
  qualityReport : Option String
  /-- Titles of the specialties that have no report. -/
  failed : List String

def footer : List String := ["---", "*Generated by CodeBoss*"]

def failureNote (failed : List String) : List String :=
  if failed.isEmpty then [] else ["*Note: " ++ joinWith ", " failed ++ " analysis failed*\n"]

/-- A part that folds away under its title. -/
def foldOpening (title : String) : List String :=
  ["<details>", "<summary><strong>" ++ title ++ "</strong></summary>\n"]

def folded (title body : String) : List String := foldOpening title ++ [body, "\n</details>\n"]

def qualityPart (report : Option String) : List String :=
  match report with
  | none => []
  | some text =>
    if text ≠ "" && !containsText "No major quality" text then folded "🔍 Potential Issues Found" text else []

def issuePart (title topic : String) (entries : List Entry) : List String :=
  if entries.isEmpty then [] else folded title (severitySection entries topic)

def changeLine (mark line code : String) : String := mark ++ " " ++ line ++ "  " ++ code

/-- An issue with a fix as a change: the old line, if it is known, and the new one. -/
def changeLines (e : Entry) : List String :=
  (e.current.map (changeLine "-" e.flushLine)).toList ++ (e.fix.map (changeLine "+" e.flushLine)).toList

def suggestionBlock (path : String) (entries : List Entry) : List String :=
  let fixes := entries.filter fun e => e.fix.isSome
  ["\n`" ++ path ++ "`\n"] ++ if fixes.isEmpty then [] else fenced "diff" (fixes.flatMap changeLines)

def suggestionPart (entries : List Entry) : List String :=
  if entries.isEmpty then []
  else
    foldOpening "💡 Code Suggestions" ++
      (groupBy (·.file) entries).flatMap (fun (file, group) => suggestionBlock file.path group) ++ ["</details>\n"]

namespace Findings

def isClean (f : Findings) : Bool := f.security.isEmpty && f.performance.isEmpty && f.quality.isEmpty

def opening (f : Findings) : List String := ["## Code Review\n"] ++ failureNote f.failed

def parts (f : Findings) : List String :=
  if f.isClean then f.opening ++ ["**No critical issues found!** Code looks good.\n"] ++ footer
  else
    f.opening ++ qualityPart f.qualityReport ++
      issuePart "🔒 Security Issues" "security" f.security ++
      issuePart "⚡ Performance Optimization" "performance" f.performance ++
      suggestionPart f.quality ++ footer

def review (f : Findings) : String := joinLines f.parts

end Findings
end Review
end PullReview
