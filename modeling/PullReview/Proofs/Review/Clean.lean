import PullReview.Proofs.Review.Arrival
/-!
# When a review finds nothing

A review says that the code looks good exactly when every report can be read and none holds an issue
(`aggregate_eq_clean_iff`).  What stands for the report of a reviewer that failed is read like any other, so a review can
say it though nobody looked at the code (`clean_though_all_down`).  It then names those who failed above the verdict, and
it names nobody else (`clean_verdict_iff`).
-/
namespace PullReview
namespace Review

open Text

/-- The review of changes without issues.  Above the verdict stand the titles of the reviewers that failed, if any did. -/
def cleanReview (failed : List Specialty) : String :=
  joinLines (["## Code Review\n"] ++
    (if failed = [] then [] else ["*Note: " ++ joinWith ", " (failed.map Specialty.title) ++ " analysis failed*\n"]) ++
    ["**No critical issues found!** Code looks good.\n"] ++ ["---", "*Generated by CodeBoss*"])

/-! ## The verdict on reports -/

theorem review_of_isClean {f : Findings} {failed : List Specialty} (hclean : f.isClean = true)
    (hfailed : f.failed = failed.map Specialty.title) : f.review = cleanReview failed := by
  have hnote : failureNote f.failed = if failed = [] then [] else
      ["*Note: " ++ joinWith ", " (failed.map Specialty.title) ++ " analysis failed*\n"] := by
    rw [hfailed]
    cases failed <;> rfl
  unfold Findings.review Findings.parts Findings.opening footer cleanReview
  rw [if_pos hclean, hnote]

theorem aggregate_of_no_issues {r : Reports} (h : ∀ s, r.issues s = .ok []) :
    r.aggregate = .completed (cleanReview r.failed) 0 := by
  obtain ⟨text, htext, -⟩ := text_of_issues (h .quality)
  unfold Reports.aggregate
  rw [findings_eq_ok_iff.2 ⟨fun _ => [], text, h, htext, rfl⟩]
  exact congrArg (Verdict.completed · 0) (review_of_isClean rfl rfl)

/-- **The total is zero exactly when all reports are read and none holds an issue.** -/
theorem aggregate_eq_clean_iff (r : Reports) :
    (∃ review, r.aggregate = .completed review 0) ↔ ∀ s, r.issues s = .ok [] := by
  constructor
  · rintro ⟨review, h⟩
    unfold Reports.aggregate at h
    cases hfindings : r.findings with
    | error cause =>
      rw [hfindings] at h
      cases h
    | ok f =>
      obtain ⟨found, text, hfound, -, rfl⟩ := findings_eq_ok_iff.1 hfindings
      rw [hfindings] at h
      have htotal := (Verdict.completed.inj h).2
      simp only [List.length_map] at htotal
      intro s
      have hnone : (found s).length = 0 := by cases s <;> omega
      rw [hfound s, List.length_eq_zero_iff.1 hnone]
  · intro h
    exact ⟨cleanReview r.failed, aggregate_of_no_issues h⟩

/-! ## The verdict of a whole review -/

namespace Dossier

/-- The verdict says that the code looks good. -/
def IsClean (d : Dossier) : Prop := ∃ review, d.verdict = some (.completed review 0)

def failed (d : Dossier) : List Specialty := Specialty.all.filter fun s => d.status s = .failed

theorem mem_failed (d : Dossier) (s : Specialty) : s ∈ d.failed ↔ d.status s = .failed := by
  have hall : s ∈ Specialty.all := by cases s <;> decide
  simp [failed, hall]

theorem failed_reports (d : Dossier) : d.reports.failed = d.failed := by
  unfold Reports.failed failed
  congr 1
  funext s
  simp [reports]

theorem failed_withVerdict (d : Dossier) (v : Verdict) : (d.withVerdict v).failed = d.failed := by cases v <;> rfl

end Dossier

/-- An examination is its verdict on the reports that the answers make. -/
theorem examine_onAnswers (svc : Store.Service) (oracle : Oracle) (d : Dossier) (store : Store) (calls : List ModelCall) :
    let answers := answersTo svc oracle d store
    ∃ e : Dossier, ((examine svc oracle d).start ⟨store, calls⟩).1 = .ok e ∧
      e.verdict = some (Reports.onAnswers answers d.changedFiles).aggregate ∧
      (Reports.onAnswers answers d.changedFiles).failed = e.failed ∧ ∀ s, e.status s = statusOn (answers s) := by
  intro answers
  have hreports := reports_informed (d.withRetrieved (retrieved svc d store)) answers
  rw [withRetrieved_changedFiles] at hreports
  refine ⟨_, examine_eq svc oracle d store calls, ?_, ?_, informed_status _ answers⟩
  · rw [← hreports]
    rfl
  · rw [← hreports, Dossier.failed_withVerdict, Dossier.failed_reports]

/-- **A review says that the code looks good exactly when every report is read and holds no issue**, and what stands for
the report of a reviewer that failed counts as one.  Every reviewer has then completed, or it has failed and the review
names it; without such a name all have completed. -/
theorem clean_verdict_iff (svc : Store.Service) (oracle : Oracle) (d : Dossier) (store : Store) (calls : List ModelCall) :
    let answers := answersTo svc oracle d store
    ∃ e : Dossier, ((examine svc oracle d).start ⟨store, calls⟩).1 = .ok e ∧
      (e.IsClean ↔ ∀ s, ∃ text, reportOn s (answers s) = .text text ∧ Issue.parse d.changedFiles text = .ok []) ∧
      (e.IsClean → e.outcome = ⟨cleanReview e.failed, 0⟩ ∧
        (∀ s, e.status s = .completed ∨ e.status s = .failed ∧ s ∈ e.failed) ∧
        (e.failed = [] ↔ ∀ s, e.status s = .completed)) := by
  intro answers
  obtain ⟨e, he, hverdict, hfailed, hstatus⟩ := examine_onAnswers svc oracle d store calls
  have hclean : e.IsClean ↔ ∀ s, (Reports.onAnswers answers d.changedFiles).issues s = .ok [] := by
    rw [← aggregate_eq_clean_iff, Dossier.IsClean, hverdict]
    simp only [Option.some.injEq, answers]
  have hdone (s : Specialty) : e.status s = .completed ∨ e.status s = .failed ∧ s ∈ e.failed := by
    rw [Dossier.mem_failed, hstatus]
    cases answersTo svc oracle d store s with
    | ok given => exact .inl rfl
    | error cause => exact .inr ⟨rfl, rfl⟩
  refine ⟨e, he, ?_, fun h => ⟨?_, hdone, ?_⟩⟩
  · rw [hclean]
    exact ⟨fun h s => text_of_issues (h s), fun h s => by
      obtain ⟨text, htext, hissues⟩ := h s
      exact (issues_of_text htext).trans hissues⟩
  · have haggregate := aggregate_of_no_issues (hclean.1 h)
    unfold Dossier.outcome
    rw [hverdict, haggregate, hfailed]
  · constructor
    · intro hnone s
      rcases hdone s with hcompleted | ⟨-, hmem⟩
      · exact hcompleted
      · rw [hnone] at hmem
        cases hmem
    · intro hall
      refine List.eq_nil_iff_forall_not_mem.2 fun s hs => ?_
      rw [Dossier.mem_failed, hall s] at hs
      cases hs

/-! ## A model that is down -/

theorem issues_of_refused {answers : Specialty → Except Fault (Option String)} {cause : Fault} {s : Specialty}
    (h : answers s = .error cause) (files : Json) :
    (Reports.onAnswers answers files).issues s = Issue.parse files (fallback cause s) := by
  refine issues_of_text ?_
  show reportOn s (answers s) = _
  rw [h]
  rfl

def allDown : Oracle := ⟨"groq", fun _ => .refusal "down"⟩

theorem answersTo_allDown (s : Specialty) :
    answersTo readyService allDown dividingDossier .empty s = .error (.refused "down") := by
  unfold answersTo answer
  rw [promptFor_state _ ((congrArg Json.kind (withRetrieved_diff dividingDossier _)).trans rfl)]
  -- whatever the prompt is
  generalize prompt s _ _ = asked
  rfl

theorem parse_fallback_allDown (s : Specialty) :
    Issue.parse dividingDossier.changedFiles (fallback (.refused "down") s) = .ok [] :=
  parse_eq_ok (by cases s <;> decide +kernel)

/-- **Nobody looked at the code, and it looks good.** -/
theorem clean_though_all_down :
    ∃ e : Dossier, ((examine readyService allDown dividingDossier).start ⟨.empty, []⟩).1 = .ok e ∧ e.IsClean ∧
      ¬ (e.status .security = .completed ∧ e.status .quality = .completed ∧ e.status .performance = .completed) := by
  obtain ⟨e, he, hverdict, -, hstatus⟩ := examine_onAnswers readyService allDown dividingDossier .empty []
  refine ⟨e, he, ?_, fun hall => ?_⟩
  · have hissues (s : Specialty) := (issues_of_refused (answersTo_allDown s) _).trans (parse_fallback_allDown s)
    rw [Dossier.IsClean, hverdict, aggregate_of_no_issues hissues]
    exact ⟨_, rfl⟩
  · have hsecurity := hall.1
    rw [hstatus, answersTo_allDown] at hsecurity
    cases hsecurity

end Review
end PullReview
