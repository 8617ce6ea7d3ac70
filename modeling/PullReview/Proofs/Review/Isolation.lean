import Mathlib.Algebra.GroupWithZero.Nat
import PullReview.Proofs.Json
import PullReview.Proofs.Review.Examine
/-!
# When one reviewer is down

All reports are read together, and one that cannot be read fails them all (`aggregate_of_unreadable`).  A reviewer whose
model refuses hands in a text of its own, so the issues of the others are kept as long as that text can be read.  A
reviewer whose model answers without a text hands in nothing to read, and the issues of the others are lost
(`healthy_issues_kept_iff`).
-/
namespace PullReview
namespace Review

open Text

/-! ## Reading the reports together -/

theorem issues_of_text {r : Reports} {t : Specialty} {text : String} (h : r.report t = .text text) :
    r.issues t = Issue.parse r.changedFiles text := by
  unfold Reports.issues Issue.parseReport
  rw [h]
  rfl

/-- Only a text can be read for issues. -/
theorem text_of_issues {r : Reports} {s : Specialty} {found : List Issue} (h : r.issues s = .ok found) :
    ∃ text, r.report s = .text text ∧ Issue.parse r.changedFiles text = .ok found := by
  obtain ⟨text, htext, hfound⟩ := Run.ok_of_bind h
  exact ⟨text, Json.textFor_eq_ok htext, hfound⟩

/-- **The findings**: the issues of all reports as they are shown, with the quality report and the titles of those that
failed. -/
theorem findings_eq_ok_iff {r : Reports} {f : Findings} :
    r.findings = .ok f ↔ ∃ (found : Specialty → List Issue) (text : String), (∀ s, r.issues s = .ok (found s)) ∧
      r.report .quality = .text text ∧
      f = { security := (found .security).map (·.entry), performance := (found .performance).map (·.entry),
            quality := (found .quality).map (·.entry), qualityReport := some text,
            failed := r.failed.map (·.title) } := by
  constructor
  · intro h
    obtain ⟨security, hsecurity, h⟩ := Run.ok_of_bind h
    obtain ⟨quality, hquality, h⟩ := Run.ok_of_bind h
    obtain ⟨performance, hperformance, h⟩ := Run.ok_of_bind h
    obtain ⟨text, htext, h⟩ := Run.ok_of_bind h
    cases h
    refine ⟨fun s => s.casesOn security quality performance, text, fun s => ?_, Json.textFor_eq_ok htext, rfl⟩
    cases s with
    | security => exact hsecurity
    | quality => exact hquality
    | performance => exact hperformance
  · rintro ⟨found, text, hfound, htext, rfl⟩
    unfold Reports.findings
    rw [hfound, hfound, hfound, htext]
    rfl

theorem aggregate_of_issues {r : Reports} {found : Specialty → List Issue} {text : String}
    (hfound : ∀ s, r.issues s = .ok (found s)) (htext : r.report .quality = .text text) :
    r.aggregate = .completed (Findings.review
        { security := (found .security).map (·.entry), performance := (found .performance).map (·.entry),
          quality := (found .quality).map (·.entry), qualityReport := some text, failed := r.failed.map (·.title) })
      ((found .security).length + (found .quality).length + (found .performance).length) := by
  unfold Reports.aggregate
  rw [findings_eq_ok_iff.2 ⟨found, text, hfound, htext, rfl⟩]
  simp only [List.length_map]

theorem aggregate_of_texts {r : Reports} {text : Specialty → String} {found : Specialty → List Issue}
    (htext : ∀ t, r.report t = .text (text t)) (hfound : ∀ t, Issue.parse r.changedFiles (text t) = .ok (found t)) :
    ∃ review, r.aggregate = .completed review
      ((found .security).length + (found .quality).length + (found .performance).length) :=
  ⟨_, aggregate_of_issues (fun t => (issues_of_text (htext t)).trans (hfound t)) (htext .quality)⟩

/-- **One report that cannot be read fails them all.** -/
theorem aggregate_of_unreadable {r : Reports} {s : Specialty} {cause : Fault} (hdown : r.issues s = .error cause)
    (hothers : ∀ t, t ≠ s → ∃ issues, r.issues t = .ok issues) : r.aggregate = .failed cause := by
  have hfindings : r.findings = .error cause := by
    unfold Reports.findings
    cases s with
    | security =>
      rw [hdown]
      rfl
    | quality =>
      obtain ⟨_, hsecurity⟩ := hothers .security (by decide)
      rw [hsecurity, hdown]
      rfl
    | performance =>
      obtain ⟨_, hsecurity⟩ := hothers .security (by decide)
      obtain ⟨_, hquality⟩ := hothers .quality (by decide)
      rw [hsecurity, hquality, hdown]
      rfl
  unfold Reports.aggregate
  rw [hfindings]

/-! ## One down, two healthy -/

/-- How many issues the other reviewers found. -/
def healthyCount (s : Specialty) (found : Specialty → List Issue) : Nat :=
  ((Specialty.all.filter (· ≠ s)).map fun t => (found t).length).sum

theorem sum_eq_healthyCount (s : Specialty) (found : Specialty → List Issue) :
    (found .security).length + (found .quality).length + (found .performance).length =
      healthyCount s found + (found s).length := by
  cases s <;> simp [healthyCount, Specialty.all] <;> omega

theorem informed_report_refused {d : Dossier} {answers : Specialty → Except Fault (Option String)} {s : Specialty}
    {cause : Fault} (hrefused : answers s = .error cause) :
    (d.informed answers).reports.report s = .text (fallback cause s) := by
  show (d.informed answers).report s = _
  rw [informed_report, hrefused]
  rfl

section Down

variable {d : Dossier} {answers : Specialty → Except Fault (Option String)} {s : Specialty}
  {text : Specialty → String} {found : Specialty → List Issue}
  (hhealthy : ∀ t, t ≠ s → answers t = .ok (some (text t)) ∧ Issue.parse d.changedFiles (text t) = .ok (found t))

include hhealthy

theorem informed_report_healthy {t : Specialty} (ht : t ≠ s) : (d.informed answers).reports.report t = .text (text t) := by
  show (d.informed answers).report t = _
  rw [informed_report, (hhealthy t ht).1]
  rfl

theorem informed_issues_healthy {t : Specialty} (ht : t ≠ s) : (d.informed answers).reports.issues t = .ok (found t) :=
  (issues_of_text (informed_report_healthy hhealthy ht)).trans (hhealthy t ht).2

theorem aggregate_of_silence (hsilent : answers s = .ok none) :
    (d.informed answers).reports.aggregate = .failed (.noAttribute .null "split") := by
  refine aggregate_of_unreadable (s := s) ?_ fun t ht => ⟨found t, informed_issues_healthy hhealthy ht⟩
  have hreport : (d.informed answers).reports.report s = .null := by
    show (d.informed answers).report s = _
    rw [informed_report, hsilent]
    rfl
  unfold Reports.issues Issue.parseReport
  rw [hreport]
  rfl

theorem aggregate_of_refusal {cause : Fault} {issues : List Issue} (hrefused : answers s = .error cause)
    (hissues : Issue.parse d.changedFiles (fallback cause s) = .ok issues) :
    ∃ review, (d.informed answers).reports.aggregate = .completed review (healthyCount s found + issues.length) := by
  -- the reviewer that is down counts as one with its own text and what is found in that
  have htext (t : Specialty) : (d.informed answers).reports.report t =
      .text (if t = s then fallback cause s else text t) := by
    by_cases ht : t = s
    · rw [if_pos ht, ht]
      exact informed_report_refused hrefused
    · rw [if_neg ht]
      exact informed_report_healthy hhealthy ht
  have hfound (t : Specialty) : Issue.parse d.changedFiles (if t = s then fallback cause s else text t) =
      .ok (if t = s then issues else found t) := by
    by_cases ht : t = s
    · rw [if_pos ht, if_pos ht, hissues]
    · rw [if_neg ht, if_neg ht, (hhealthy t ht).2]
  obtain ⟨review, hreview⟩ := aggregate_of_texts htext hfound
  refine ⟨review, hreview.trans (congrArg (Verdict.completed review) ?_)⟩
  have hcount : healthyCount s (fun t => if t = s then issues else found t) = healthyCount s found := by
    cases s <;> simp [healthyCount, Specialty.all]
  rw [sum_eq_healthyCount s fun t => if t = s then issues else found t, hcount, if_pos rfl]

theorem aggregate_of_unreadable_refusal {cause unread : Fault} (hrefused : answers s = .error cause)
    (hissues : Issue.parse d.changedFiles (fallback cause s) = .error unread) :
    (d.informed answers).reports.aggregate = .failed unread :=
  aggregate_of_unreadable ((issues_of_text (informed_report_refused hrefused)).trans hissues)
    fun t ht => ⟨found t, informed_issues_healthy hhealthy ht⟩

end Down

/-- **The issues of the healthy reviewers are kept exactly if the one that is down was refused and the text that stands
for its report can be read.**  When its model answers without a text instead, the verdict is that nothing could be
read, and no issue of the others is left. -/
theorem healthy_issues_kept_iff (svc : Store.Service) (oracle : Oracle) (d : Dossier) (store : Store)
    (calls : List ModelCall) {s : Specialty} {text : Specialty → String} {found : Specialty → List Issue}
    (hdown : answersTo svc oracle d store s = .ok none ∨ ∃ cause, answersTo svc oracle d store s = .error cause)
    (hhealthy : ∀ t, t ≠ s → answersTo svc oracle d store t = .ok (some (text t)) ∧
      Issue.parse d.changedFiles (text t) = .ok (found t)) :
    ∃ e v, ((examine svc oracle d).start ⟨store, calls⟩).1 = .ok e ∧ e.verdict = some v ∧
      (v.status = .completed ∧ healthyCount s found ≤ e.outcome.total ↔
        ∃ cause issues, answersTo svc oracle d store s = .error cause ∧
          Issue.parse d.changedFiles (fallback cause s) = .ok issues) ∧
      (v.status ≠ .completed → e.outcome.total = 0) ∧
      (answersTo svc oracle d store s = .ok none → v = .failed (.noAttribute .null "split")) := by
  have hexamine := examine_eq svc oracle d store calls
  obtain ⟨e, he⟩ : ∃ e, e = (d.withRetrieved (retrieved svc d store)).informed (answersTo svc oracle d store) := ⟨_, rfl⟩
  dsimp only at hexamine
  rw [← he] at hexamine
  have hchanged : (d.withRetrieved (retrieved svc d store)).changedFiles = d.changedFiles :=
    withRetrieved_changedFiles d _
  rw [← hchanged] at hhealthy
  refine ⟨_, _, hexamine, rfl, ?_⟩
  rcases hdown with hsilent | ⟨cause, hrefused⟩
  · have hverdict : e.reports.aggregate = .failed (.noAttribute .null "split") := by
      rw [he]
      exact aggregate_of_silence hhealthy hsilent
    rw [hverdict]
    refine ⟨⟨fun h => absurd h.1 (by decide), ?_⟩, fun _ => rfl, fun _ => rfl⟩
    rintro ⟨cause, issues, hcause, -⟩
    rw [hsilent] at hcause
    cases hcause
  · rw [← hchanged]
    have hspoken : answersTo svc oracle d store s ≠ .ok none := fun h => by rw [hrefused] at h; cases h
    cases hissues : Issue.parse (d.withRetrieved (retrieved svc d store)).changedFiles (fallback cause s) with
    | ok issues =>
      obtain ⟨review, hreview⟩ := aggregate_of_refusal hhealthy hrefused hissues
      rw [← he] at hreview
      rw [hreview]
      refine ⟨⟨fun _ => ⟨cause, issues, hrefused, hissues⟩, fun _ => ⟨rfl, ?_⟩⟩, fun h => absurd rfl h,
        fun h => absurd h hspoken⟩
      exact Nat.le_add_right _ _
    | error unread =>
      have hverdict : e.reports.aggregate = .failed unread := by
        rw [he]
        exact aggregate_of_unreadable_refusal hhealthy hrefused hissues
      rw [hverdict]
      refine ⟨⟨fun h => absurd h.1 (by simp [Verdict.status]), ?_⟩, fun _ => rfl, fun h => absurd h hspoken⟩
      rintro ⟨cause', issues, hcause, hread⟩
      obtain rfl := Except.error.inj (hrefused.symm.trans hcause)
      rw [hissues] at hread
      cases hread

/-! ## A model that is silent on security -/

/-- The specialty that a prompt is for, by the word after its first ten letters. -/
def isForSecurity (prompt : String) : Bool := prompt.toList[11]? == some 'S'

theorem isForSecurity_prompt (s : Specialty) (diff context : String) :
    isForSecurity (prompt s diff context) = decide (s = .security) := by
  have hopening : (prompt s diff context).toList[11]? = (task s).toList[10]? := by
    unfold prompt joinLines
    simp only [List.cons_append, joinWith, String.toList_append]
    cases s <;> rfl
  rw [isForSecurity, hopening]
  cases s <;> rfl

def dividingReport : String := "- `a.py:1` - divides by zero\n  - **Fix:** `x = 1`"

def dividingIssue : Issue := ⟨"a.py", 1, .medium, "divides by zero", none, some "x = 1"⟩

def partlySilent : Oracle :=
  ⟨"groq", fun prompt => if isForSecurity prompt then .text none else .text (some dividingReport)⟩

def dividingDossier : Dossier := { diff := .object [], context := "", changedFiles := .list ["a.py"] }

theorem parse_eq_ok {files : Json} {text : String} {issues : List Issue}
    (h : (Issue.parse files text).toOption = some issues) : Issue.parse files text = .ok issues := by
  cases hparse : Issue.parse files text with
  | error cause => simp [hparse, Except.toOption] at h
  | ok found => simpa [hparse, Except.toOption] using h

theorem parse_dividingReport : Issue.parse (.list ["a.py"]) dividingReport = .ok [dividingIssue] :=
  parse_eq_ok (by decide +kernel)

theorem answer_partlySilent (d : Dossier) (hdiff : d.diff.kind = .object) (s : Specialty) :
    answer partlySilent d.state s = .ok (if s = .security then none else some dividingReport) := by
  unfold answer
  rw [promptFor_state d hdiff]
  show heard (partlySilent.reply (prompt s d.diffText d.context.display)) = _
  simp only [partlySilent, isForSecurity_prompt]
  cases s <;> rfl

/-- Two reviewers found an issue each, and none of the two is left. -/
theorem healthy_issues_lost_dividingDossier :
    healthyCount .security (fun _ => [dividingIssue]) = 2 ∧
      ∃ e, ((examine readyService partlySilent dividingDossier).start ⟨.empty, []⟩).1 = .ok e ∧
        e.outcome.total = 0 := by
  have hanswers (s : Specialty) : answersTo readyService partlySilent dividingDossier .empty s =
      .ok (if s = .security then none else some dividingReport) :=
    answer_partlySilent _ ((congrArg Json.kind (withRetrieved_diff dividingDossier _)).trans rfl) s
  obtain ⟨e, v, he, -, -, hlost, hsilent⟩ := healthy_issues_kept_iff readyService partlySilent dividingDossier .empty []
    (s := .security) (Or.inl (hanswers .security))
    (fun t ht => ⟨(hanswers t).trans (congrArg Except.ok (if_neg ht)), parse_dividingReport⟩)
  refine ⟨rfl, e, he, hlost ?_⟩
  rw [hsilent (hanswers .security)]
  decide

end Review
end PullReview
