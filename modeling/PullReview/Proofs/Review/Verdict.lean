import PullReview.Proofs.Review.Clean
import PullReview.Proofs.Review.Fixes
import PullReview.Proofs.Text.Lines
/-!
# What a review says and what it counts

A review that has something to report goes on below its opening with a part that folds away (`parts_of_not_isClean`), and
one that has not with its verdict.  The two begin with different characters, whatever the reports say, so a review reads
like a clean one exactly when nothing was counted.  The line under the heading is a note exactly when a reviewer failed,
and since titles hold no comma the note tells who (`note_inj`).
-/
namespace PullReview
namespace Review

open Text

/-! ## The note -/

def note (named : List Specialty) : List Char :=
  ("*Note: " ++ joinWith ", " (named.map Specialty.title) ++ " analysis failed*").toList

/-- The note of a review, if the line under its heading is one. -/
def noteOf? (review : String) : Option (List Char) :=
  (lines review.toList)[2]?.filter fun line => "*Note: ".toList.isPrefixOf line

theorem comma_not_mem_title (s : Specialty) : ',' ∉ s.title.toList := by cases s <;> decide

theorem splitOn_titles (s : Specialty) : ∀ named : List Specialty,
    splitOn ',' (joinWith ", " ((s :: named).map Specialty.title)).toList =
      s.title.toList :: named.map fun t => ' ' :: t.title.toList
  | [] => splitOn_of_not_mem ',' _ (comma_not_mem_title s)
  | t :: named => by
    have ih := splitOn_titles t named
    have hspace : ',' ∉ ' ' :: t.title.toList := by simpa using comma_not_mem_title t
    have hjoined : (joinWith ", " ((s :: t :: named).map Specialty.title)).toList =
        s.title.toList ++ ',' :: ' ' :: (joinWith ", " ((t :: named).map Specialty.title)).toList := by
      simp [joinWith]
    rw [hjoined, splitOn_append_cons ',' _ _ (comma_not_mem_title s), splitOn, if_neg (by decide), ih]
    rfl

theorem title_injective : Function.Injective fun s : Specialty => s.title.toList := by
  intro s t h
  cases s <;> cases t <;> first | rfl | exact absurd h (by decide)

theorem joinWith_titles_inj {named named' : List Specialty}
    (h : joinWith ", " (named.map Specialty.title) = joinWith ", " (named'.map Specialty.title)) : named = named' := by
  have hempty (s : Specialty) (rest : List Specialty) : joinWith ", " ((s :: rest).map Specialty.title) ≠ "" := by
    intro h
    have hsplit := splitOn_titles s rest
    rw [h] at hsplit
    cases s <;> cases rest <;> simp [splitOn, Specialty.title] at hsplit
  cases named with
  | nil =>
    cases named' with
    | nil => rfl
    | cons t rest => exact absurd h.symm (hempty t rest)
  | cons s named =>
    cases named' with
    | nil => exact absurd h (hempty s named)
    | cons t named' =>
      have hsplit := splitOn_titles s named
      rw [h, splitOn_titles t named', List.cons.injEq] at hsplit
      have hrest : named'.map (fun t => ' ' :: t.title.toList) = named.map fun t => ' ' :: t.title.toList := hsplit.2
      have hspaced : Function.Injective fun t : Specialty => ' ' :: t.title.toList :=
        fun a b hab => title_injective (List.cons.inj hab).2
      rw [title_injective hsplit.1, List.map_injective_iff.2 hspaced hrest]

/-- **A note tells whom it names.** -/
theorem note_inj {named named' : List Specialty} (h : note named = note named') : named = named' := by
  unfold note at h
  rw [String.toList_inj, String.append_left_inj, String.append_right_inj] at h
  exact joinWith_titles_inj h

theorem break_not_mem_note (named : List Specialty) : '\n' ∉ note named := by
  have htitle (s : Specialty) : '\n' ∉ s.title.toList := by cases s <;> decide
  have hjoined : '\n' ∉ (joinWith ", " (named.map Specialty.title)).toList := by
    intro hmem
    rcases mem_joinWith hmem with hsep | ⟨title, htitles, hbreak⟩
    · exact absurd hsep (by decide)
    · obtain ⟨s, -, rfl⟩ := List.mem_map.1 htitles
      exact htitle s hbreak
  simp [note, hjoined]

/-! ## Below the opening -/

/-- Parts that begin with one that folds away, if there are any. -/
def FoldsAway (parts : List String) : Prop := ∀ part ∈ parts.head?, part = "<details>"

theorem FoldsAway.append {xs ys : List String} (hxs : FoldsAway xs) (hys : FoldsAway ys) : FoldsAway (xs ++ ys) := by
  cases xs with
  | nil => exact hys
  | cons x rest => exact hxs

theorem foldsAway_qualityPart (report : Option String) : FoldsAway (qualityPart report) := by
  unfold qualityPart
  split
  · simp [FoldsAway]
  · split <;> simp [FoldsAway, folded, foldOpening]

theorem foldsAway_issuePart (title topic : String) (entries : List Entry) :
    FoldsAway (issuePart title topic entries) := by
  unfold issuePart
  split <;> simp [FoldsAway, folded, foldOpening]

theorem foldsAway_suggestionPart (entries : List Entry) : FoldsAway (suggestionPart entries) := by
  unfold suggestionPart
  split <;> simp [FoldsAway, foldOpening]

/-- **A review with something to report goes on with a part that folds away.** -/
theorem parts_of_not_isClean {f : Findings} (h : f.isClean = false) :
    ∃ rest, f.parts = f.opening ++ "<details>" :: rest := by
  have hparts : f.parts = f.opening ++ (qualityPart f.qualityReport ++
      issuePart "🔒 Security Issues" "security" f.security ++
      issuePart "⚡ Performance Optimization" "performance" f.performance ++ suggestionPart f.quality ++ footer) := by
    simp [Findings.parts, h]
  have hfolds := (((foldsAway_qualityPart f.qualityReport).append (foldsAway_issuePart "🔒 Security Issues" "security"
    f.security)).append (foldsAway_issuePart "⚡ Performance Optimization" "performance" f.performance)).append
    (foldsAway_suggestionPart f.quality)
  -- some list has an entry, and its part is there
  have hsome : qualityPart f.qualityReport ++ issuePart "🔒 Security Issues" "security" f.security ++
      issuePart "⚡ Performance Optimization" "performance" f.performance ++ suggestionPart f.quality ≠ [] := by
    intro hnone
    simp only [List.append_eq_nil_iff] at hnone
    obtain ⟨⟨⟨-, hsecurity⟩, hperformance⟩, hquality⟩ := hnone
    simp only [issuePart, suggestionPart, folded, foldOpening] at hsecurity hperformance hquality
    have hclean : f.isClean = true := by
      simp only [Findings.isClean, Bool.and_eq_true]
      refine ⟨⟨?_, ?_⟩, ?_⟩
      · by_contra hs
        simp [hs] at hsecurity
      · by_contra hp
        simp [hp] at hperformance
      · by_contra hq
        simp [hq] at hquality
    rw [h] at hclean
    cases hclean
  obtain ⟨first, rest, hbody⟩ := List.exists_cons_of_ne_nil hsome
  rw [hbody] at hfolds hparts
  rw [hfolds first rfl] at hparts
  exact ⟨rest ++ footer, hparts⟩

/-- What stands below the opening of a review without issues. -/
def cleanEnding : List String := ["**No critical issues found!** Code looks good.\n", "---", "*Generated by CodeBoss*"]

theorem parts_of_isClean {f : Findings} (h : f.isClean = true) : f.parts = f.opening ++ cleanEnding := by
  simp [Findings.parts, h, cleanEnding, footer]

theorem cleanReview_eq {f : Findings} {failed : List Specialty} (hfailed : f.failed = failed.map Specialty.title) :
    cleanReview failed = joinLines (f.opening ++ cleanEnding) := by
  -- the findings with nothing in them have the same opening
  have hnothing : ({ f with security := [], performance := [], quality := [] } : Findings).isClean = true := rfl
  rw [← review_of_isClean hnothing hfailed, Findings.review, parts_of_isClean hnothing]
  rfl

/-- **A review reads like a clean one exactly when there is nothing to report.** -/
theorem review_eq_cleanReview_iff {f : Findings} {failed : List Specialty}
    (hfailed : f.failed = failed.map Specialty.title) : f.review = cleanReview failed ↔ f.isClean = true := by
  refine ⟨fun hsame => ?_, fun hclean => review_of_isClean hclean hfailed⟩
  by_contra hdirty
  rw [Bool.not_eq_true] at hdirty
  obtain ⟨rest, hrest⟩ := parts_of_not_isClean hdirty
  have hopening : f.opening ≠ [] := by simp [Findings.opening]
  have hending : joinLines ("<details>" :: rest) = joinLines cleanEnding := by
    rw [cleanReview_eq hfailed, Findings.review, hrest, joinLines, joinLines, joinWith_append (by simp) hopening,
      joinWith_append (by simp [cleanEnding]) hopening, String.append_right_inj] at hsame
    exact hsame
  -- the first characters differ
  have hhead := congrArg (fun s => s.toList.head?) hending
  cases rest <;> simp [joinLines, joinWith, cleanEnding] at hhead

/-! ## The line under the heading -/

theorem noteOf?_review {f : Findings} {failed : List Specialty} (hfailed : f.failed = failed.map Specialty.title) :
    noteOf? f.review = if failed = [] then none else some (note failed) := by
  obtain ⟨first, rest, hparts, hfirst⟩ : ∃ first rest, f.parts = f.opening ++ first :: rest ∧
      (first = "<details>" ∨ first = "**No critical issues found!** Code looks good.\n") := by
    cases hclean : f.isClean with
    | true => exact ⟨_, _, parts_of_isClean hclean, .inr rfl⟩
    | false =>
      obtain ⟨rest, hrest⟩ := parts_of_not_isClean hclean
      exact ⟨_, rest, hrest, .inl rfl⟩
  have hlines : lines f.review.toList = "## Code Review".toList :: [] ::
      ((failureNote f.failed ++ first :: rest).flatMap fun part => lines part.toList) := by
    rw [Findings.review, hparts, lines_joinLines_flatMap (by simp), Findings.opening, List.append_assoc,
      List.singleton_append, List.flatMap_cons]
    rfl
  rw [noteOf?, hlines, List.getElem?_cons_succ, List.getElem?_cons_succ, hfailed]
  cases failed with
  | nil => rcases hfirst with rfl | rfl <;> rfl
  | cons s named =>
    have hnote : ("*Note: " ++ joinWith ", " ((s :: named).map Specialty.title) ++ " analysis failed*\n").toList =
        note (s :: named) ++ ['\n'] := by simp [note]
    have hprefix : "*Note: ".toList.isPrefixOf (note (s :: named)) = true := by
      rw [List.isPrefixOf_iff_prefix, note, String.toList_append, String.toList_append, List.append_assoc]
      exact List.prefix_append _ _
    rw [failureNote, if_neg (by simp), List.singleton_append, List.flatMap_cons, hnote,
      lines_append_break (break_not_mem_note _), if_neg (List.cons_ne_nil s named), List.cons_append,
      List.getElem?_cons_zero, Option.filter_some, if_pos hprefix]

/-! ## The whole verdict -/

/-- **Count and words agree.**  Nothing was counted exactly when the review is the clean one.  Under its heading stands a
note exactly when some reviewer failed, and it names those who did, security first and performance last. -/
theorem clean_iff_none_counted {r : Reports} {review : String} {total : Nat}
    (h : r.aggregate = .completed review total) :
    let failed := [Specialty.security, .quality, .performance].filter fun s => r.status s = some .failed
    (total = 0 ↔ review = cleanReview failed) ∧
      ((noteOf? review).isSome = true ↔ ∃ s, r.status s = some .failed) ∧
      ∀ named, noteOf? review = some (note named) ↔ named ≠ [] ∧ named = failed := by
  intro failed
  unfold Reports.aggregate at h
  cases hfindings : r.findings with
  | error cause =>
    rw [hfindings] at h
    cases h
  | ok f =>
    rw [hfindings] at h
    obtain ⟨rfl, rfl⟩ := Verdict.completed.inj h
    obtain ⟨found, text, -, -, hf⟩ := findings_eq_ok_iff.1 hfindings
    have hfailed : f.failed = failed.map Specialty.title := by rw [hf]; rfl
    have hnote := noteOf?_review hfailed
    refine ⟨?_, ?_, fun named => ?_⟩
    · rw [review_eq_cleanReview_iff hfailed]
      simp [Findings.isClean, and_right_comm]
    · rw [hnote]
      have hsome : failed ≠ [] ↔ ∃ s, r.status s = some .failed := by
        constructor
        · intro hne
          obtain ⟨s, hs⟩ := List.exists_mem_of_ne_nil failed hne
          exact ⟨s, of_decide_eq_true (List.mem_filter.1 hs).2⟩
        · rintro ⟨s, hs⟩
          exact List.ne_nil_of_mem (List.mem_filter.2 ⟨by cases s <;> decide, decide_eq_true hs⟩)
      rw [← hsome]
      by_cases hnone : failed = [] <;> simp [hnone]
    · rw [hnote]
      by_cases hnone : failed = []
      · simp [hnone]
      · rw [if_neg hnone, Option.some.injEq]
        constructor
        · intro hsame
          obtain rfl := note_inj hsame
          exact ⟨hnone, rfl⟩
        · rintro ⟨-, rfl⟩
          rfl

/-- The injection is found while the two other reviewers are down. -/
def loneReports : Reports :=
  { injectionReports with status := fun s => some (if s = .security then .completed else .failed) }

theorem clean_iff_none_counted_loneReports :
    ∃ review, loneReports.aggregate = .completed review 1 ∧ review ≠ cleanReview [.quality, .performance] ∧
      noteOf? review = some "*Note: Code Quality, Performance analysis failed*".toList := by
  have haggregate : loneReports.aggregate = .completed _ 1 :=
    aggregate_of_issues (r := loneReports) issues_injectionReports rfl
  obtain ⟨hcount, -, hnote⟩ := clean_iff_none_counted haggregate
  refine ⟨_, haggregate, fun hclean => ?_, (hnote [.quality, .performance]).2 ⟨by decide, by decide⟩⟩
  exact absurd (hcount.2 hclean) (by decide)

end Review
end PullReview
