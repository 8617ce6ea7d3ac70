import PullReview.Proofs.Json
import PullReview.Proofs.Issue.Reading
import PullReview.Proofs.Review.Isolation
import PullReview.Proofs.Review.Section
import PullReview.Review.Draft
/-!
# Issues as drafts

An issue can be looked over like any draft.  Every check passes (`review_checked`), and the files of drafts, which are
told apart by numbers, are those of the issues, which are told apart by their paths (`entries_drafts`).  So the review of
the drafts is the review of the issues (`review_drafts`).  What is left to fail is reading the reports: there is no review
exactly when a number in one of them is too long (`aggregate_failed_iff`).
-/
namespace PullReview

open Text

def Issue.draft (i : Issue) : Review.Draft :=
  { path := .text i.path, line := .int i.line, severity := .text i.severity.label, description := .text i.description,
    current := .ofOption i.current, fix := .ofOption i.fix }

namespace Review

/-! ## Numbers in place of paths -/

/-- The entry with another number for its file, by its rank and path. -/
def Entry.renumbered (number : Rank → String → Nat) (e : Entry) : Entry :=
  { e with file := ⟨e.file.path, number e.rank e.file.path⟩ }

theorem isUnseen_renumbered (number : Rank → String → Nat) :
    IsUnseen (Entry.renumbered number) fun rank place => ⟨place.path, number rank place.path⟩ :=
  ⟨fun _ => rfl, fun _ _ => rfl, fun _ => rfl, fun _ => rfl, fun _ => rfl, fun _ => rfl⟩

theorem file_entry_inj {issues : List Issue} {a b : Entry} (ha : a ∈ issues.map (·.entry))
    (hb : b ∈ issues.map (·.entry)) (h : a.file.path = b.file.path) : a.file = b.file := by
  obtain ⟨i, -, rfl⟩ := List.mem_map.1 ha
  obtain ⟨j, -, rfl⟩ := List.mem_map.1 hb
  exact congrArg (Place.mk · 0) h

theorem issuePart_renumbered (number : Rank → String → Nat) (issues : List Issue) (title topic : String) :
    issuePart title topic ((issues.map (·.entry)).map (Entry.renumbered number)) =
      issuePart title topic (issues.map (·.entry)) := by
  refine issuePart_map (isUnseen_renumbered number) (fun a ha b hb _ hfile => ?_) title topic
  exact file_entry_inj ha hb (Place.mk.inj hfile).1

theorem suggestionBlock_renumbered (number : Rank → String → Nat) (path : String) (entries : List Entry) :
    suggestionBlock path (entries.map (Entry.renumbered number)) = suggestionBlock path entries := by
  simp only [suggestionBlock, List.filter_map, List.isEmpty_map, List.flatMap_map]
  rfl

/-- The suggestions do not go by rank, so a file has one number here. -/
theorem suggestionPart_renumbered (number : String → Nat) (issues : List Issue) :
    suggestionPart ((issues.map (·.entry)).map (Entry.renumbered fun _ => number)) =
      suggestionPart (issues.map (·.entry)) := by
  have hgroups : groupBy (·.file) ((issues.map (·.entry)).map (Entry.renumbered fun _ => number)) =
      (groupBy (·.file) (issues.map (·.entry))).map fun g =>
        (⟨g.1.path, number g.1.path⟩, g.2.map (Entry.renumbered fun _ => number)) :=
    groupBy_map (Entry.renumbered fun _ => number) (fun file => ⟨file.path, number file.path⟩) (fun _ _ => rfl)
      fun a ha b hb hfile => file_entry_inj ha hb (Place.mk.inj hfile).1
  unfold suggestionPart
  rw [List.isEmpty_map, hgroups, List.flatMap_map]
  simp only [suggestionBlock_renumbered]

namespace Draft

theorem rank_draft (i : Issue) : i.draft.rank = i.entry.rank := by
  unfold rank Issue.draft Issue.entry
  cases i.severity <;> rfl

theorem entry_draft (i : Issue) (file : Place) : i.draft.entry file = { i.entry with file } := by
  have htext (code : Option String) : text? (Json.ofOption code) = code := by cases code <;> rfl
  rw [entry, rank_draft]
  unfold Issue.draft
  simp only [htext]
  rfl

/-- A draft stands under the first that is alike, itself at the latest. -/
theorem placeAfter_eq {alike : Draft → Draft → Bool} {before : List Draft} {d : Draft} (hself : alike d d = true)
    (hpath : ∀ e ∈ before, alike e d = true → e.path.display = d.path.display) (rest : List Draft) :
    placeAfter alike before d = ⟨d.path.display, (before ++ d :: rest).findIdx (alike · d)⟩ := by
  unfold placeAfter
  rw [List.findIdx_append]
  by_cases h : ∃ e ∈ before, alike e d = true
  · obtain ⟨first, hfirst⟩ := Option.isSome_iff_exists.1 (List.find?_isSome.2 h)
    rw [List.findIdx?_eq_some_of_exists h, hfirst, if_pos (List.findIdx_lt_length.2 h)]
    have halike := List.find?_some hfirst
    exact congrArg (Place.mk · _) (hpath first (List.mem_of_find?_eq_some hfirst) halike)
  · have hnone : before.findIdx? (alike · d) = none := by
      rw [List.findIdx?_eq_none_iff]
      exact fun e he => Bool.eq_false_iff.2 fun halike => h ⟨e, he, halike⟩
    rw [hnone, if_neg (fun hlt => h (List.findIdx_lt_length.1 hlt)), List.findIdx_cons, hself]
    simp

theorem placesFrom_drafts {alike : Draft → Draft → Bool} (hself : ∀ i : Issue, alike i.draft i.draft = true)
    (hpath : ∀ i j : Issue, alike i.draft j.draft = true → i.path = j.path) : ∀ before issues : List Issue,
    placesFrom alike (before.map (·.draft)) (issues.map (·.draft)) =
      issues.map fun i => (⟨i.path, ((before ++ issues).map (·.draft)).findIdx (alike · i.draft)⟩, i.draft)
  | _, [] => rfl
  | before, i :: rest => by
    -- what follows is no earlier than the draft itself, so it does not matter for the first that is alike
    have hpaths : ∀ e ∈ before.map (·.draft), alike e i.draft = true → e.path.display = i.path := by
      intro e he halike
      obtain ⟨j, -, rfl⟩ := List.mem_map.1 he
      exact hpath j i halike
    have hplace := placeAfter_eq (hself i) hpaths (rest.map (·.draft))
    have ih := placesFrom_drafts hself hpath (before ++ [i]) rest
    rw [List.append_assoc, List.singleton_append, List.map_append, List.map_singleton] at ih
    rw [List.map_cons, placesFrom, hplace, ih, List.map_cons, List.map_append, List.map_cons]
    rfl

/-- **Drafts of issues make the entries of the issues**, up to the numbers of their files. -/
theorem entries_drafts {alike : Draft → Draft → Bool} {number : Rank → String → Nat} {issues : List Issue}
    (hself : ∀ i : Issue, alike i.draft i.draft = true)
    (hpath : ∀ i j : Issue, alike i.draft j.draft = true → i.path = j.path)
    (hnumber : ∀ i : Issue, (issues.map (·.draft)).findIdx (alike · i.draft) = number i.entry.rank i.path) :
    entries alike (issues.map (·.draft)) = (issues.map (·.entry)).map (Entry.renumbered number) := by
  have hplaces := placesFrom_drafts hself hpath [] issues
  rw [entries, places]
  rw [List.map_nil, List.nil_append] at hplaces
  rw [hplaces, List.map_map, List.map_map]
  refine List.map_congr_left fun i _ => ?_
  simp only [Function.comp_apply, entry_draft, hnumber]
  rfl

theorem samePath_drafts (i j : Issue) : samePath i.draft j.draft = true ↔ i.path = j.path := by
  rw [samePath, Issue.draft, Issue.draft, Json.same_text_iff, Json.text.injEq]

theorem entries_samePath (issues : List Issue) : ∃ number : String → Nat,
    entries samePath (issues.map (·.draft)) = (issues.map (·.entry)).map (Entry.renumbered fun _ => number) :=
  ⟨fun path => (issues.map (·.draft)).findIdx fun d => d.path.same (.text path),
    entries_drafts (fun i => (samePath_drafts i i).2 rfl) (fun i j => (samePath_drafts i j).1) fun _ => rfl⟩

theorem entries_sameRankAndPath (issues : List Issue) : ∃ number : Rank → String → Nat,
    entries sameRankAndPath (issues.map (·.draft)) = (issues.map (·.entry)).map (Entry.renumbered number) := by
  refine ⟨fun rank path => (issues.map (·.draft)).findIdx fun d => d.rank = rank && d.path.same (.text path),
    entries_drafts (fun i => ?_) (fun i j halike => ?_) fun i => ?_⟩
  · simp [sameRankAndPath, (samePath_drafts i i).2 rfl]
  · exact (samePath_drafts i j).1 (Bool.and_eq_true_iff.1 halike).2
  · simp only [sameRankAndPath, rank_draft]
    rfl

/-! ## Nothing is amiss -/

theorem lookAtCode_ofOption (code : Option String) : lookAtCode (.ofOption code) = .ok () := by
  unfold lookAtCode
  cases code with
  | none => rfl
  | some text => split <;> rfl

theorem mem_of_mem_byFile {ds : List Draft} {d : Draft} (h : d ∈ byFile ds) : d ∈ ds := by
  have hplaces : ∀ before ds : List Draft, (placesFrom samePath before ds).map Prod.snd = ds := by
    intro before ds
    induction ds generalizing before with
    | nil => rfl
    | cons d rest ih => rw [placesFrom, List.map_cons, ih]
  obtain ⟨⟨_, group⟩, hgroup, hd⟩ := List.mem_flatMap.1 h
  obtain ⟨file, -, hgroup⟩ := List.mem_map.1 hgroup
  obtain ⟨-, rfl⟩ := Prod.mk.inj hgroup
  rw [← hplaces [] ds]
  exact List.map_subset Prod.snd (List.filter_subset_self _) hd

theorem forM_drafts {look : Draft → Except Fault Unit} (hlook : ∀ i : Issue, look i.draft = .ok ()) {ds : List Draft}
    {issues : List Issue} (hds : ds ⊆ issues.map (·.draft)) : ds.forM look = .ok () := by
  induction ds with
  | nil => rfl
  | cons d rest ih =>
    rw [List.cons_subset] at hds
    obtain ⟨i, -, rfl⟩ := List.mem_map.1 hds.1
    show (look i.draft >>= fun _ => rest.forM look) = .ok ()
    rw [hlook, ih hds.2]
    rfl

theorem lookAtRank_drafts (issues : List Issue) : lookAtRank (issues.map (·.draft)) = .ok () := by
  have hdescriptions : Json.textsFrom 0 (((issues.map (·.draft)).take 2).map (·.description)) =
      .ok ((issues.take 2).map (·.description)) := by
    rw [← List.map_take, List.map_map, ← Json.textsFrom_map_text 0, List.map_map]
    rfl
  have hkeys : (issues.map (·.draft)).forM (fun d => d.path.requireKey) = .ok () :=
    forM_drafts (fun _ => rfl) (List.Subset.refl _)
  have hcode : (byFile (issues.map (·.draft))).forM (fun d => lookAtCode d.current) = .ok () :=
    forM_drafts (fun i => lookAtCode_ofOption i.current) fun _ => mem_of_mem_byFile
  rw [lookAtRank, hdescriptions, hkeys, hcode]
  rfl

theorem lookAtSection_drafts (issues : List Issue) : lookAtSection (issues.map (·.draft)) = .ok () := by
  rw [lookAtSection, List.filter_map, List.filter_map, lookAtRank_drafts, lookAtRank_drafts]
  rfl

theorem lookAtChange_draft (i : Issue) : lookAtChange i.draft = .ok () := by
  have hcurrent : lookAtCode i.draft.current = .ok () := lookAtCode_ofOption i.current
  have hfix : lookAtCode i.draft.fix = .ok () := lookAtCode_ofOption i.fix
  rw [lookAtChange, hcurrent, hfix]
  split <;> rfl

end Draft

namespace DraftFindings

def ofIssues (found : Specialty → List Issue) (qualityReport : String) (failed : List String) : DraftFindings :=
  { security := (found .security).map (·.draft), performance := (found .performance).map (·.draft),
    quality := (found .quality).map (·.draft), qualityReport := .text qualityReport, failed := .ofTexts failed }

variable (found : Specialty → List Issue) (qualityReport : String) (failed : List String)

theorem failedTitles_ofIssues : (ofIssues found qualityReport failed).failedTitles = .ok failed := by
  unfold failedTitles
  cases failed with
  | nil => rfl
  | cons title rest => exact Json.textsFrom_map_text 0 (title :: rest)

theorem showsReport_ofIssues : ∃ shown, (ofIssues found qualityReport failed).showsReport = .ok shown := by
  unfold showsReport
  split <;> exact ⟨_, rfl⟩

theorem lookAtReport_ofIssues : (ofIssues found qualityReport failed).lookAtReport failed = .ok () := by
  obtain ⟨shown, hshown⟩ := showsReport_ofIssues found qualityReport failed
  rw [lookAtReport, hshown]
  cases shown <;> rfl

theorem review_checked : (ofIssues found qualityReport failed).review =
    .ok (Findings.review
      { security := Draft.entries Draft.sameRankAndPath ((found .security).map (·.draft)),
        performance := Draft.entries Draft.sameRankAndPath ((found .performance).map (·.draft)),
        quality := Draft.entries Draft.samePath ((found .quality).map (·.draft)),
        qualityReport := some qualityReport, failed }) := by
  obtain ⟨shown, hshown⟩ := showsReport_ofIssues found qualityReport failed
  have hkeys : (ofIssues found qualityReport failed).quality.forM (fun d => d.path.requireKey) = .ok () :=
    Draft.forM_drafts (fun _ => rfl) (List.Subset.refl _)
  have hchanges : (Draft.byFile (ofIssues found qualityReport failed).quality).forM Draft.lookAtChange = .ok () :=
    Draft.forM_drafts Draft.lookAtChange_draft fun _ => Draft.mem_of_mem_byFile
  have hsecurity : Draft.lookAtSection (ofIssues found qualityReport failed).security = .ok () :=
    Draft.lookAtSection_drafts (found .security)
  have hperformance : Draft.lookAtSection (ofIssues found qualityReport failed).performance = .ok () :=
    Draft.lookAtSection_drafts (found .performance)
  -- clean findings skip the other checks, which pass anyhow
  simp only [review, hkeys, failedTitles_ofIssues, hshown, hsecurity, hperformance, hchanges, lookAtReport_ofIssues,
    bind, Except.bind, pure, Except.pure, ite_self]
  rfl

end DraftFindings

theorem review_renumbered (found : Specialty → List Issue) (security performance : Rank → String → Nat)
    (quality : String → Nat) (report : Option String) (failed : List String) :
    Findings.review { security := ((found .security).map (·.entry)).map (Entry.renumbered security),
                      performance := ((found .performance).map (·.entry)).map (Entry.renumbered performance),
                      quality := ((found .quality).map (·.entry)).map (Entry.renumbered fun _ => quality),
                      qualityReport := report, failed } =
      Findings.review { security := (found .security).map (·.entry), performance := (found .performance).map (·.entry),
                        quality := (found .quality).map (·.entry), qualityReport := report, failed } := by
  simp only [Findings.review, Findings.parts, Findings.isClean, Findings.opening, issuePart_renumbered,
    suggestionPart_renumbered, List.isEmpty_map]

/-- **Issues looked over as drafts make the same review**, and nothing is amiss with any of them. -/
theorem review_drafts (found : Specialty → List Issue) (qualityReport : String) (failed : List String) :
    (DraftFindings.ofIssues found qualityReport failed).review =
      .ok (Findings.review
        { security := (found .security).map (·.entry), performance := (found .performance).map (·.entry),
          quality := (found .quality).map (·.entry), qualityReport := some qualityReport, failed }) := by
  obtain ⟨security, hsecurity⟩ := Draft.entries_sameRankAndPath (found .security)
  obtain ⟨performance, hperformance⟩ := Draft.entries_sameRankAndPath (found .performance)
  obtain ⟨quality, hquality⟩ := Draft.entries_samePath (found .quality)
  rw [DraftFindings.review_checked, hsecurity, hperformance, hquality, review_renumbered]

/-! ## When there is no review -/

/-- Reports that can be looked into, with any status. -/
def Reports.ofTexts (text : Specialty → String) (status : Specialty → Option Status) (files : List String) : Reports :=
  { report := fun s => .text (text s), status, changedFiles := .ofTexts files }

theorem status_of_unreadable {r : Reports} {s : Specialty} (hunread : ¬ ∃ found, r.issues s = .ok found) :
    r.aggregate.status = .failed := by
  unfold Reports.aggregate
  cases hfindings : r.findings with
  | error cause => rfl
  | ok f =>
    obtain ⟨found, _, hfound, -⟩ := findings_eq_ok_iff.1 hfindings
    exact absurd ⟨found s, hfound s⟩ hunread

/-- **There is no review exactly when some report has an overlong line**, whatever was changed and whatever the statuses
are.  Otherwise the review counts the issues of all three reports; looked over as drafts, these have nothing amiss and
make the same review, and every line number in it can be written. -/
theorem aggregate_failed_iff (text : Specialty → String) (status : Specialty → Option Status) (files : List String) :
    ((Reports.ofTexts text status files).aggregate.status = .failed ↔
      ∃ s, ∃ line ∈ lines (text s).toList, Issue.IsOverlong line) ∧
    ((Reports.ofTexts text status files).aggregate.status = .failed ∨
      ∃ found review, (∀ s, Issue.parse (.ofTexts files) (text s) = .ok (found s)) ∧
        (Reports.ofTexts text status files).aggregate = .completed review
          ((found .security).length + (found .quality).length + (found .performance).length) ∧
        (DraftFindings.ofIssues found (text .quality)
          ((Reports.ofTexts text status files).failed.map (·.title))).review = .ok review ∧
        ∀ s, ∀ i ∈ found s, (toString i.line).length ≤ digitLimit) := by
  by_cases hlong : ∃ s, ∃ line ∈ lines (text s).toList, Issue.IsOverlong line
  · obtain ⟨s, line, hline, hover⟩ := hlong
    have hfailed : (Reports.ofTexts text status files).aggregate.status = .failed :=
      status_of_unreadable fun h => (Issue.parse_ok_iff files (text s)).1 h line hline hover
    exact ⟨iff_of_true hfailed ⟨s, line, hline, hover⟩, .inl hfailed⟩
  · have hread (s : Specialty) : ∃ found, Issue.parse (.ofTexts files) (text s) = .ok found :=
      (Issue.parse_ok_iff files (text s)).2 fun line hline hover => hlong ⟨s, line, hline, hover⟩
    choose found hfound using hread
    have haggregate : (Reports.ofTexts text status files).aggregate = _ := aggregate_of_issues hfound rfl
    refine ⟨iff_of_false ?_ hlong, .inr ⟨found, _, hfound, haggregate, review_drafts found _ _, fun s i hi => ?_⟩⟩
    · rw [haggregate]
      exact Status.noConfusion
    · exact Issue.length_line_le (hfound s) hi

end Review
end PullReview
