import PullReview.Proofs.Issue.Captured
import PullReview.Proofs.Review.Isolation
import PullReview.Proofs.Review.Lines
import PullReview.Proofs.Review.Section
/-!
# Which fixes a review shows

Code is read without white space at its ends (`isTrimmed_fix`), so a review shows it as it was read.  Every fix of a
quality issue stands in the review, on the new side of its change (`infix_review`).  The sections on security and
performance show the code an issue is about and never its fix: a review is the same when these fixes are left out
(`review_bare`).  So a fix of theirs is in the review only where the same text stands there anyhow (`fix_shown_iff`).
-/
namespace PullReview

open Text

/-! ## Code as it is read -/

namespace Issue

/-- **A fix is read without white space at its ends.** -/
theorem isTrimmed_fix {changed : Json} {text : String} {found : List Issue} (h : parse changed text = .ok found) :
    ∀ i ∈ found, ∀ fix ∈ i.fix, isTrimmed fix.toList :=
  fun i hi fix hfix => ((isCaptured_of_parse h i hi).fix fix hfix).trimmed

def bare (i : Issue) : Issue := { i with fix := none }

/-- The fix, if there is one, stands in the text. -/
def FixIn (i : Issue) (text : String) : Prop := ∀ fix ∈ i.fix, fix.toList <:+: text.toList

end Issue

namespace Review

/-! ## Fixes that are shown -/

theorem mem_suggestionBlock {group : List Entry} {e : Entry} {fix : String} (he : e ∈ group) (hfix : e.fix = some fix)
    (path : String) : changeLine "+" e.flushLine fix ∈ suggestionBlock path group := by
  have hfixes : e ∈ group.filter fun x => x.fix.isSome := by simp [he, hfix]
  have hchange : changeLine "+" e.flushLine fix ∈ changeLines e := by simp [changeLines, hfix]
  unfold suggestionBlock fenced
  simp only [List.isEmpty_iff, if_neg (List.ne_nil_of_mem hfixes), List.mem_append]
  exact .inr (.inl (.inr (List.mem_flatMap_of_mem hfixes hchange)))

theorem mem_suggestionPart {entries : List Entry} {e : Entry} {fix : String} (he : e ∈ entries)
    (hfix : e.fix = some fix) : changeLine "+" e.flushLine fix ∈ suggestionPart entries := by
  obtain ⟨group, hgroup, hmem⟩ : ∃ group, (e.file, group) ∈ groupBy (·.file) entries ∧ e ∈ group := mem_groupBy he
  unfold suggestionPart
  simp only [List.isEmpty_iff, if_neg (List.ne_nil_of_mem he), List.mem_append, List.mem_flatMap]
  exact .inl (.inr ⟨(e.file, group), hgroup, mem_suggestionBlock hmem hfix e.file.path⟩)

/-- **Every fix of a quality issue stands in the review.** -/
theorem infix_review {f : Findings} {e : Entry} {fix : String} (he : e ∈ f.quality) (hfix : e.fix = some fix) :
    fix.toList <:+: f.review.toList := by
  have hdirty : f.isClean = false := by
    have hne : f.quality.isEmpty = false := by simpa using List.ne_nil_of_mem he
    simp [Findings.isClean, hne]
  have hmem : changeLine "+" e.flushLine fix ∈ f.parts := by
    unfold Findings.parts
    rw [hdirty]
    exact List.mem_append_left _ (List.mem_append_right _ (mem_suggestionPart he hfix))
  have hline : fix.toList <:+: (changeLine "+" e.flushLine fix).toList := by
    rw [changeLine, String.toList_append]
    exact (List.suffix_append _ _).isInfix
  exact hline.trans (infix_joinWith "\n" f.parts _ hmem)

/-! ## Fixes that are not -/

def Entry.bare (e : Entry) : Entry := { e with fix := none }

theorem isUnseen_bare : IsUnseen Entry.bare fun _ place => place :=
  ⟨fun _ => rfl, fun _ _ => rfl, fun _ => rfl, fun _ => rfl, fun _ => rfl, fun _ => rfl⟩

theorem issuePart_bare (title topic : String) (entries : List Entry) :
    issuePart title topic (entries.map Entry.bare) = issuePart title topic entries :=
  issuePart_map isUnseen_bare (fun _ _ _ _ _ hfile => hfile) title topic

/-- The findings without the fixes of security and performance issues. -/
def Findings.bare (f : Findings) : Findings :=
  { f with security := f.security.map Entry.bare, performance := f.performance.map Entry.bare }

/-- **A review is the same without the fixes of security and performance issues.** -/
theorem review_bare (f : Findings) : f.bare.review = f.review := by
  have hclean : f.bare.isClean = f.isClean := by simp only [Findings.isClean, Findings.bare, List.isEmpty_map]
  have hparts : f.bare.parts = f.parts := by
    unfold Findings.parts
    rw [hclean]
    simp only [Findings.bare, issuePart_bare]
    rfl
  rw [Findings.review, hparts, Findings.review]

/-! ## The whole review -/

/-- The reports are the same up to the fixes of security and performance issues. -/
structure Reports.SameButFixes (r r' : Reports) : Prop where
  changedFiles : r'.changedFiles = r.changedFiles
  failed : r'.failed = r.failed
  quality : r'.report .quality = r.report .quality
  others : ∀ s, s ≠ .quality → ∃ found found', r.issues s = .ok found ∧ r'.issues s = .ok found' ∧
    found'.map Issue.bare = found.map Issue.bare

theorem entries_bare {found found' : List Issue} (h : found'.map Issue.bare = found.map Issue.bare) :
    (found'.map (·.entry)).map Entry.bare = (found.map (·.entry)).map Entry.bare := by
  have hentry (issues : List Issue) : (issues.map (·.entry)).map Entry.bare = (issues.map Issue.bare).map (·.entry) := by
    rw [List.map_map, List.map_map]
    rfl
  rw [hentry, hentry, h]

theorem findings_of_sameButFixes {r r' : Reports} {f : Findings} (hfindings : r.findings = .ok f)
    (h : r.SameButFixes r') : ∃ f', r'.findings = .ok f' ∧ f'.bare = f.bare := by
  obtain ⟨found, text, hfound, htext, rfl⟩ := findings_eq_ok_iff.1 hfindings
  have hothers (s : Specialty) : ∃ found', r'.issues s = .ok found' ∧ found'.map Issue.bare = (found s).map Issue.bare ∧
      (s = .quality → found' = found s) := by
    by_cases hs : s = .quality
    · subst hs
      refine ⟨found .quality, ?_, rfl, fun _ => rfl⟩
      rw [← hfound .quality, Reports.issues, Reports.issues, h.changedFiles, h.quality]
    · obtain ⟨issues, found', hissues, hfound', hbare⟩ := h.others s hs
      obtain rfl : issues = found s := Except.ok.inj (hissues.symm.trans (hfound s))
      exact ⟨found', hfound', hbare, fun h => absurd h hs⟩
  choose found' hfound' hbare hquality using hothers
  refine ⟨_, findings_eq_ok_iff.2 ⟨found', text, hfound', h.quality.trans htext, rfl⟩, ?_⟩
  simp only [Findings.bare, entries_bare (hbare _), hquality .quality rfl, h.failed]

theorem aggregate_of_sameButFixes {r r' : Reports} {f : Findings} (hfindings : r.findings = .ok f)
    (h : r.SameButFixes r') : r'.aggregate = r.aggregate := by
  obtain ⟨f', hfindings', hbare⟩ := findings_of_sameButFixes hfindings h
  have hreview : f'.review = f.review := by rw [← review_bare, hbare, review_bare]
  have hsecurity : f'.security.length = f.security.length := by
    simpa [Findings.bare] using congrArg (·.security.length) hbare
  have hperformance : f'.performance.length = f.performance.length := by
    simpa [Findings.bare] using congrArg (·.performance.length) hbare
  have hquality : f'.quality.length = f.quality.length := congrArg (·.quality.length) hbare
  unfold Reports.aggregate
  rw [hfindings, hfindings']
  simp only [hreview, hsecurity, hperformance, hquality]

/-- **A fix is shown exactly when it is one for quality, or its text stands in the review that leaves all other fixes
out.**  Reports that differ in those other fixes only make the same review. -/
theorem fix_shown_iff {r : Reports} {review : String} {total : Nat} (h : r.aggregate = .completed review total) :
    ∃ (f : Findings) (found : Specialty → List Issue), r.findings = .ok f ∧ (∀ s, r.issues s = .ok (found s)) ∧
      (∀ s, ∀ i ∈ found s, i.FixIn review ↔ s = .quality ∨ i.FixIn f.bare.review) ∧
      ∀ r', r.SameButFixes r' → r'.aggregate = .completed review total := by
  unfold Reports.aggregate at h
  cases hfindings : r.findings with
  | error cause =>
    rw [hfindings] at h
    cases h
  | ok f =>
    rw [hfindings] at h
    obtain ⟨rfl, rfl⟩ := Verdict.completed.inj h
    obtain ⟨found, text, hfound, htext, hf⟩ := findings_eq_ok_iff.1 hfindings
    refine ⟨f, found, rfl, hfound, fun s i hi => ?_, fun r' hsame => ?_⟩
    · rw [review_bare]
      refine ⟨.inr, fun hshown => hshown.elim (fun hs => ?_) id⟩
      subst hs
      intro fix hfix
      by_cases hne : fix = ""
      · rw [hne]
        exact List.nil_infix
      · obtain ⟨_, -, hparse⟩ := text_of_issues (hfound .quality)
        have hentry : i.entry.fix = some fix := by
          rw [Issue.entry, Option.mem_def.1 hfix]
          exact shownCode_of_isTrimmed hne (Issue.isTrimmed_fix hparse i hi fix hfix)
        have hmem : i.entry ∈ f.quality := by
          rw [hf]
          exact List.mem_map_of_mem hi
        exact infix_review hmem hentry
    · rw [aggregate_of_sameButFixes hfindings hsame]
      unfold Reports.aggregate
      rw [hfindings]

/-! ## An injection and its remedy -/

def injection : Issue := ⟨"a.py", 1, .medium, "SQL injection", none, some "execute(q, x)"⟩

def injectionReports : Reports :=
  { report := fun s => if s = .security then "- `a.py:1` - SQL injection\n  - **Fix:** `execute(q, x)`" else ""
    status := fun _ => some .completed
    changedFiles := .list ["a.py"] }

def injectionFindings : Findings :=
  { security := [injection.entry], performance := [], quality := [], qualityReport := some "", failed := [] }

theorem issues_injectionReports (s : Specialty) :
    injectionReports.issues s = .ok (if s = .security then [injection] else []) := by
  cases s with
  | security => exact parse_eq_ok (by decide +kernel)
  | quality => exact parse_eq_ok (by decide +kernel)
  | performance => exact parse_eq_ok (by decide +kernel)

/-- The remedy is read, and the review does not show it. -/
theorem fix_not_shown_injectionReports :
    ∃ review, injectionReports.aggregate = .completed review 1 ∧ injectionReports.issues .security = .ok [injection] ∧
      ¬ injection.FixIn review := by
  have hfindings : injectionReports.findings = .ok injectionFindings :=
    findings_eq_ok_iff.2 ⟨_, "", issues_injectionReports, rfl, rfl⟩
  have haggregate : injectionReports.aggregate = .completed injectionFindings.review 1 := by
    unfold Reports.aggregate
    rw [hfindings]
    rfl
  have hissues : injectionReports.issues .security = .ok [injection] := issues_injectionReports .security
  refine ⟨injectionFindings.review, haggregate, hissues, fun hshown => ?_⟩
  obtain ⟨f, found, hf, hfound, hiff, -⟩ := fix_shown_iff haggregate
  obtain rfl : injectionFindings = f := Except.ok.inj (hfindings.symm.trans hf)
  have hsecurity : injection ∈ found .security := by
    rw [← Except.ok.inj (hissues.symm.trans (hfound .security))]
    exact List.mem_singleton_self injection
  rcases (hiff .security injection hsecurity).1 hshown with hquality | hbare
  · cases hquality
  · have hmissing : contains "execute(q, x)".toList injectionFindings.bare.review.toList = false := by decide +kernel
    have hthere := (contains_iff _ _).2 (hbare "execute(q, x)" rfl)
    rw [hmissing] at hthere
    cases hthere

end Review
end PullReview
