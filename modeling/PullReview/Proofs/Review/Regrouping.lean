import PullReview.Proofs.Keyed
import PullReview.Proofs.Review.Isolation
import PullReview.Proofs.Review.Lines
/-!
# A section sorts its issues and loses none

A section is read back by its titles: `titled` finds the lines under each title, and `outline` the files under each rank
and the lines of code under each file.  What is read back are the groups that were written (`outline_severitySection`), so
every issue stands under its own rank and file, once, and in the order in which it was reported.
-/
namespace PullReview
namespace Review

open Text

/-! ## Reading titles -/

/-- What stands above the first title, and every title with the lines under it. -/
def titled (isTitle : List Char → Bool) : List (List Char) → List (List Char) × List (List Char × List (List Char))
  | [] => ([], [])
  | line :: rest =>
    if isTitle line then ([], (line, (titled isTitle rest).1) :: (titled isTitle rest).2)
    else (line :: (titled isTitle rest).1, (titled isTitle rest).2)

section Titled

variable {isTitle : List Char → Bool}

theorem titled_append {above : List (List Char)} (habove : ∀ line ∈ above, isTitle line = false) (ls : List (List Char)) :
    titled isTitle (above ++ ls) = (above ++ (titled isTitle ls).1, (titled isTitle ls).2) := by
  induction above with
  | nil => rfl
  | cons line rest ih =>
    rw [List.forall_mem_cons] at habove
    rw [List.cons_append, titled, if_neg (by simp [habove.1]), ih habove.2]
    rfl

theorem titled_of_plain {ls : List (List Char)} (h : ∀ line ∈ ls, isTitle line = false) :
    titled isTitle ls = (ls, []) := by
  simpa [titled] using titled_append h []

theorem titled_cons {title : List Char} (htitle : isTitle title = true) (ls : List (List Char)) :
    titled isTitle (title :: ls) = ([], (title, (titled isTitle ls).1) :: (titled isTitle ls).2) := by
  rw [titled, if_pos htitle]

/-- **Titled blocks are read back**, by a reader that does not see what stands between and behind them. -/
theorem read_blocks {β : Type} (read : List (List Char) → β) (sep tail : List (List Char))
    (hsep : ∀ line ∈ sep, isTitle line = false) (htail : ∀ line ∈ tail, isTitle line = false)
    (hread : ∀ body, read (body ++ sep) = read body ∧ read (body ++ tail) = read body) :
    ∀ {blocks : List (List Char × List (List Char))},
      (∀ b ∈ blocks, isTitle b.1 = true ∧ ∀ line ∈ b.2, isTitle line = false) →
      (titled isTitle (((blocks.map fun b => b.1 :: b.2).intersperse sep).flatten ++ tail)).2.map
          (fun b => (b.1, read b.2)) =
        blocks.map fun b => (b.1, read b.2)
  | [], _ => by simp [titled_of_plain htail]
  | [b], h => by
    obtain ⟨htitle, hbody⟩ := h b List.mem_cons_self
    simp [titled_cons htitle, titled_append hbody, titled_of_plain htail, (hread _).2]
  | b :: c :: rest, h => by
    rw [List.forall_mem_cons] at h
    obtain ⟨⟨htitle, hbody⟩, hrest⟩ := h
    have ih := read_blocks read sep tail hsep htail hread hrest
    -- the next block begins with its title, so nothing stands above that
    obtain ⟨ls, hls⟩ : ∃ ls, (((c :: rest).map fun b => b.1 :: b.2).intersperse sep).flatten ++ tail = c.1 :: ls := by
      cases rest <;> simp
    have htext : (((b :: c :: rest).map fun b => b.1 :: b.2).intersperse sep).flatten ++ tail =
        b.1 :: (b.2 ++ (sep ++ c.1 :: ls)) := by
      rw [← hls]
      simp
    have hnext := titled_cons (hrest c List.mem_cons_self).1 ls
    rw [hls] at ih
    rw [htext, titled_cons htitle, titled_append hbody, titled_append hsep, List.map_cons, ih, hnext]
    simp [(hread _).1]

end Titled

/-! ## The outline of a section -/

def isRankTitle (line : List Char) : Bool :=
  [Rank.critical, .medium].any fun rank => ("### " ++ rank.sign ++ " " ++ rank.label ++ " (").toList.isPrefixOf line

def isFileTitle (line : List Char) : Bool := "📄 **".toList.isPrefixOf line

def isCodeLine (line : List Char) : Bool := "line ".toList.isPrefixOf line

/-- The files of a rank, each with the lines of code under its title. -/
def files (ls : List (List Char)) : List (List Char × List (List Char)) :=
  (titled isFileTitle ls).2.map fun b => (b.1, b.2.filter isCodeLine)

/-- The ranks of a section, each with the files under its title. -/
def outline (ls : List (List Char)) : List (List Char × List (List Char × List (List Char))) :=
  (titled isRankTitle ls).2.map fun b => (b.1, files b.2)

theorem files_append {more : List (List Char)}
    (hmore : ∀ line ∈ more, isFileTitle line = false ∧ isCodeLine line = false) : ∀ ls : List (List Char),
      (titled isFileTitle (ls ++ more)).1.filter isCodeLine = (titled isFileTitle ls).1.filter isCodeLine ∧
        files (ls ++ more) = files ls
  | [] => by
    have hplain := titled_of_plain fun line hline => (hmore line hline).1
    have hnone : more.filter isCodeLine = [] := List.filter_eq_nil_iff.2 fun line hline => by simp [(hmore line hline).2]
    simp [files, hplain, titled, hnone]
  | line :: rest => by
    obtain ⟨habove, hfiles⟩ := files_append hmore rest
    simp only [files] at hfiles ⊢
    by_cases hline : isFileTitle line = true
    · simp [titled, hline, habove, hfiles]
    · simp [titled, hline, List.filter_cons, habove, hfiles]

/-! ## The lines under a rank -/

/-- What may stand under the title of a rank. -/
inductive IsBodyLine : List Char → Prop
  | blank : IsBodyLine []
  | impact (text : String) : IsBodyLine ("> **Impact:** " ++ text).toList
  | file (path : String) : IsBodyLine (fileTitle path)
  | opening : IsBodyLine "```python".toList
  | code (text : String) : IsBodyLine ("line " ++ text).toList
  | closing : IsBodyLine fence.toList

theorem IsBodyLine.not_isRankTitle {line : List Char} (h : IsBodyLine line) : isRankTitle line = false := by
  cases h <;> simp [isRankTitle, fileTitle, fence, List.isPrefixOf]

theorem IsBodyLine.not_sign {line : List Char} (h : IsBodyLine line) : "> [!".toList.isPrefixOf line = false := by
  cases h <;> simp [fileTitle, fence, List.isPrefixOf]

def fileBody (entries : List Entry) : List (List Char) := "```python".toList :: (codeLines entries ++ [fence.toList, []])

theorem mem_fileBody {entries : List Entry} {line : List Char} (h : line ∈ fileBody entries) :
    IsBodyLine line ∧ isFileTitle line = false := by
  simp only [fileBody, List.mem_cons, List.mem_append, List.not_mem_nil, or_false] at h
  rcases h with rfl | hcode | rfl | rfl
  · exact ⟨.opening, rfl⟩
  · obtain ⟨text, rfl⟩ := mem_codeLines hcode
    exact ⟨.code text, by simp [isFileTitle, List.isPrefixOf]⟩
  · exact ⟨.closing, rfl⟩
  · exact ⟨.blank, rfl⟩

theorem filter_fileBody (entries : List Entry) : (fileBody entries).filter isCodeLine = codeLines entries := by
  have hcode : (codeLines entries).filter isCodeLine = codeLines entries := List.filter_eq_self.2 fun line hline => by
    obtain ⟨text, rfl⟩ := mem_codeLines hline
    simp [isCodeLine, List.isPrefixOf]
  rw [fileBody, List.filter_cons_of_neg (by decide), List.filter_append, hcode]
  exact List.append_nil _

def rankBody (entries : List Entry) : List (List Char) :=
  [[], ("> **Impact:** " ++ impact entries).toList, []] ++
    (groupBy (·.file) entries).flatMap fun g => [] :: fileTitle g.1.path :: fileBody g.2

theorem isBodyLine_of_mem {entries : List Entry} {line : List Char} (h : line ∈ rankBody entries) : IsBodyLine line := by
  simp only [rankBody, List.mem_append, List.mem_cons, List.not_mem_nil, or_false, List.mem_flatMap] at h
  rcases h with (rfl | rfl | rfl) | ⟨g, -, rfl | rfl | hline⟩
  · exact .blank
  · exact .impact _
  · exact .blank
  · exact .blank
  · exact .file _
  · exact (mem_fileBody hline).1

theorem partLines_rankBlock_eq (rank : Rank) {entries : List Entry} (h : ∀ e ∈ entries, e.IsOneLine) :
    partLines (rankBlock rank entries) = rankTitle rank entries.length :: rankBody entries := by
  have hfiles : ∀ g ∈ groupBy (·.file) entries,
      partLines (fileBlock g.1.path g.2) = [] :: fileTitle g.1.path :: fileBody g.2 := by
    intro g hg
    obtain ⟨⟨e, he, hfile⟩, -⟩ := eq_of_mem_groupBy hg
    rw [partLines_fileBlock (hfile ▸ (h e he).path) fun e he => h e (mem_groupBy_iff.1 ⟨g, hg, he⟩)]
    simp [fileBody]
  rw [partLines_rankBlock rank h, rankBody, List.flatMap_congr hfiles]
  rfl

theorem flatMap_eq_intersperse {α β : Type} (sep : List β) (f : α → List β) : ∀ {xs : List α}, xs ≠ [] →
    xs.flatMap (fun a => sep ++ f a) = sep ++ ((xs.map f).intersperse sep).flatten
  | [], h => absurd rfl h
  | [a], _ => by simp
  | a :: b :: rest, _ => by
    rw [List.flatMap_cons, flatMap_eq_intersperse sep f (List.cons_ne_nil b rest)]
    simp

/-- **Under a rank stand its files, and under each file its code.** -/
theorem files_rankBody (entries : List Entry) :
    files (rankBody entries) = (groupBy (·.file) entries).map fun g => (fileTitle g.1.path, codeLines g.2) := by
  have hplain : ∀ line ∈ [[], ("> **Impact:** " ++ impact entries).toList, []], isFileTitle line = false := by
    simp [isFileTitle, List.isPrefixOf]
  by_cases hne : groupBy (·.file) entries = []
  · rw [files, rankBody, hne, List.flatMap_nil, List.append_nil, titled_of_plain hplain]
    rfl
  · let blocks := (groupBy (·.file) entries).map fun g => (fileTitle g.1.path, fileBody g.2)
    have hblocks : ∀ b ∈ blocks, isFileTitle b.1 = true ∧ ∀ line ∈ b.2, isFileTitle line = false := by
      intro b hb
      obtain ⟨g, -, rfl⟩ := List.mem_map.1 hb
      exact ⟨by simp [isFileTitle, fileTitle, List.isPrefixOf], fun line hline => (mem_fileBody hline).2⟩
    have hbody : rankBody entries = ([[], ("> **Impact:** " ++ impact entries).toList, []] ++ [[]]) ++
        (((blocks.map fun b => b.1 :: b.2).intersperse [[]]).flatten ++ []) := by
      have hspread := flatMap_eq_intersperse [[]] (fun g : Place × List Entry => fileTitle g.1.path :: fileBody g.2) hne
      simp only [List.singleton_append] at hspread
      simp [rankBody, blocks, hspread, Function.comp_def]
    have hread := read_blocks (List.filter isCodeLine) [[]] [] (by decide) (by decide) (fun body => by simp [isCodeLine])
      hblocks
    rw [files, hbody, titled_append (by simpa using hplain), hread]
    simp [blocks, filter_fileBody]

/-! ## The section read back -/

theorem isRankTitle_of_small {line : List Char} (h : ∀ c ∈ line, ¬ IsCapital c) : isRankTitle line = false := by
  rw [isRankTitle, List.any_eq_false]
  intro rank _ htitle
  have hsub := (List.isPrefixOf_iff_prefix.1 htitle).subset
  cases rank with
  | critical =>
    have hmem : 'C' ∈ line := hsub (by simp [Rank.label])
    exact h 'C' hmem (by decide)
  | medium =>
    have hmem : 'M' ∈ line := hsub (by simp [Rank.label])
    exact h 'M' hmem (by decide)

theorem isRankTitle_rankTitle (rank : Rank) (n : Nat) : isRankTitle (rankTitle rank n) = true := by
  have hprefix : ("### " ++ rank.sign ++ " " ++ rank.label ++ " (").toList <+: rankTitle rank n := by
    simp only [rankTitle, String.toList_append, List.append_assoc, List.prefix_append_right_inj]
    exact List.prefix_append _ _
  rw [isRankTitle, List.any_eq_true]
  exact ⟨rank, by cases rank <;> decide, List.isPrefixOf_iff_prefix.2 hprefix⟩

/-- **What is read back from a section are its groups.** -/
theorem outline_severitySection {entries : List Entry} (hne : entries ≠ []) (h : ∀ e ∈ entries, e.IsOneLine)
    (topic : String) :
    outline (lines (severitySection entries topic).toList) = (shownRanks entries).map fun rank =>
      (rankTitle rank (ofRank rank entries).length,
        (groupBy (·.file) (ofRank rank entries)).map fun g => (fileTitle g.1.path, codeLines g.2)) := by
  let blocks := (shownRanks entries).map fun rank =>
    (rankTitle rank (ofRank rank entries).length, rankBody (ofRank rank entries))
  have hblocks : ∀ b ∈ blocks, isRankTitle b.1 = true ∧ ∀ line ∈ b.2, isRankTitle line = false := by
    intro b hb
    obtain ⟨rank, -, rfl⟩ := List.mem_map.1 hb
    dsimp only
    exact ⟨isRankTitle_rankTitle rank _, fun line hline => (isBodyLine_of_mem hline).not_isRankTitle⟩
  have hlines : (shownRanks entries).map (fun rank => partLines (rankBlock rank (ofRank rank entries))) =
      blocks.map fun b => b.1 :: b.2 := by
    rw [List.map_map]
    refine List.map_congr_left fun rank _ => ?_
    rw [Function.comp_apply, partLines_rankBlock_eq rank fun e he => h e (mem_of_mem_ofRank he)]
  obtain ⟨first, others, halert, hsmall, -⟩ := partLines_alert entries topic
  have habove : ∀ line ∈ partLines (alert entries topic), isRankTitle line = false := by
    rw [halert, List.forall_mem_append]
    refine ⟨?_, fun line hline => isRankTitle_of_small (hsmall line hline)⟩
    by_cases hcritical : hasCritical entries = true <;>
      simp [isRankTitle, alertSign, alertCount, hcritical, List.isPrefixOf]
  have htail : ∀ line ∈ tipLines entries,
      isRankTitle line = false ∧ isFileTitle line = false ∧ isCodeLine line = false := by
    unfold tipLines
    split <;> decide
  have hread := read_blocks files ruleLines (tipLines entries) (by decide) (fun line hline => (htail line hline).1)
    (fun body => ⟨(files_append (by decide) body).2, (files_append (fun line hline => (htail line hline).2) body).2⟩)
    hblocks
  rw [outline, lines_severitySection hne, hlines, List.append_assoc, titled_append habove, hread]
  simp [blocks, files_rankBody]

/-! ## The alert and the tip -/

theorem lines_alert_first {entries : List Entry} (hne : entries ≠ []) (topic : String) :
    ∃ said below, lines (severitySection entries topic).toList =
      [] :: (alertSign entries).toList :: (alertCount entries.length ++ said) :: below := by
  obtain ⟨first, others, halert, -⟩ := partLines_alert entries topic
  rw [lines_severitySection hne, halert]
  exact ⟨first, _, rfl⟩

theorem tipLines_isSuffix {entries : List Entry} (hne : entries ≠ []) (topic : String) :
    tipLines entries <:+ lines (severitySection entries topic).toList := by
  rw [lines_severitySection hne]
  exact List.suffix_append _ _

theorem mem_of_mem_intersperse {α : Type} {sep : List α} {a : α} : ∀ {parts : List (List α)},
    a ∈ (parts.intersperse sep).flatten → a ∈ sep ∨ ∃ part ∈ parts, a ∈ part
  | [], h => by simp at h
  | [part], h => .inr ⟨part, List.mem_cons_self, by simpa using h⟩
  | part :: next :: rest, h => by
    rw [List.intersperse_cons_cons, List.flatten_cons, List.flatten_cons, List.mem_append, List.mem_append] at h
    rcases h with hpart | hsep | hrest
    · exact .inr ⟨part, List.mem_cons_self, hpart⟩
    · exact .inl hsep
    · rcases mem_of_mem_intersperse hrest with hsep | ⟨p, hp, ha⟩
      · exact .inl hsep
      · exact .inr ⟨p, List.mem_cons_of_mem part hp, ha⟩

theorem not_sign_of_mem_rankBlock {rank : Rank} {entries : List Entry} (h : ∀ e ∈ entries, e.IsOneLine) {line : List Char}
    (hline : line ∈ partLines (rankBlock rank entries)) : "> [!".toList.isPrefixOf line = false := by
  rw [partLines_rankBlock_eq rank h, List.mem_cons] at hline
  rcases hline with rfl | hline
  · simp [rankTitle, List.isPrefixOf]
  · exact (isBodyLine_of_mem hline).not_sign

/-- **Only the alert and the tip put signs into a section**; a sign has a capital, so the topic cannot. -/
theorem sign_mem_iff {entries : List Entry} (hne : entries ≠ []) (h : ∀ e ∈ entries, e.IsOneLine) (topic : String)
    {sign : List Char} (hsign : "> [!".toList.isPrefixOf sign = true) (hcapital : ∃ c ∈ sign, IsCapital c) :
    sign ∈ lines (severitySection entries topic).toList ↔ sign = (alertSign entries).toList ∨ sign ∈ tipLines entries := by
  obtain ⟨first, others, halert, hsmall, -⟩ := partLines_alert entries topic
  rw [lines_severitySection hne, halert]
  constructor
  · intro hmem
    simp only [List.mem_append, List.mem_cons, List.not_mem_nil, or_false] at hmem
    rcases hmem with (((rfl | rfl | rfl) | hothers) | hranks) | htip
    · exact absurd hsign (by decide)
    · exact .inl rfl
    · exact absurd hsign (by simp [alertCount, List.isPrefixOf])
    · obtain ⟨c, hc, hcapital⟩ := hcapital
      exact absurd hcapital (hsmall sign hothers c hc)
    · exfalso
      rcases mem_of_mem_intersperse hranks with hrule | ⟨block, hblock, hline⟩
      · simp only [ruleLines, List.mem_cons, List.not_mem_nil, or_false] at hrule
        rcases hrule with rfl | rfl | rfl <;> exact absurd hsign (by decide)
      · obtain ⟨rank, -, rfl⟩ := List.mem_map.1 hblock
        rw [not_sign_of_mem_rankBlock (fun e he => h e (mem_of_mem_ofRank he)) hline] at hsign
        cases hsign
    · exact .inr htip
  · rintro (rfl | htip)
    · simp
    · exact List.mem_append_right _ htip

/-! ## Issues that were read -/

def severities : Rank → List Severity
  | .critical => [.critical, .high]
  | .medium => [.medium, .low]

/-- The issues that are shown under a rank, in their order. -/
def bucket (rank : Rank) (found : List Issue) : List Issue := found.filter fun i => i.severity ∈ severities rank

/-- The line that shows the code an issue is about, when there is any. -/
def issueLine? (i : Issue) : Option (List Char) :=
  (i.current.filter (· ≠ "")).map fun code => ("line " ++ toString i.line ++ ": " ++ code).toList

theorem ofRank_entries (rank : Rank) (found : List Issue) :
    ofRank rank (found.map (·.entry)) = (bucket rank found).map (·.entry) := by
  have hrank : ∀ severity : Severity, decide (severity.rank = rank) = decide (severity ∈ severities rank) := by
    intro severity
    cases severity <;> cases rank <;> rfl
  unfold ofRank bucket
  rw [List.filter_map]
  exact congrArg _ (List.filter_congr fun i _ => hrank i.severity)

theorem groupBy_entries (issues : List Issue) :
    groupBy (·.file) (issues.map (·.entry)) = (distinct (issues.map (·.path))).map fun path =>
      (⟨path, 0⟩, (issues.filter fun i => i.path = path).map (·.entry)) := by
  have hfiles : (issues.map (·.entry)).map (·.file) = (issues.map (·.path)).map fun path => Place.mk path 0 := by
    simp only [List.map_map]
    rfl
  unfold groupBy
  rw [hfiles, distinct_map fun p _ q _ hpq => congrArg Place.path hpq, List.map_map]
  refine List.map_congr_left fun path _ => ?_
  simp only [Function.comp_apply, List.filter_map, Prod.mk.injEq, true_and]
  exact congrArg _ (List.filter_congr fun i _ => by simp [Issue.entry])

theorem codeLines_entries {issues : List Issue} (h : ∀ i ∈ issues, i.IsCaptured) :
    codeLines (issues.map (·.entry)) = issues.filterMap issueLine? := by
  rw [codeLines, List.filterMap_map, List.map_filterMap]
  refine List.filterMap_congr fun i hi => ?_
  rw [Function.comp_apply, codeLine?, Issue.entry, shownCode_eq (h i hi).current, Option.map_map]
  rfl

theorem length_bucket (found : List Issue) :
    (bucket .critical found).length + (bucket .medium found).length = found.length := by
  induction found with
  | nil => rfl
  | cons i rest ih =>
    unfold bucket at ih ⊢
    cases hseverity : i.severity <;> simp [severities, hseverity] at ih ⊢ <;> omega

theorem hasCritical_entries (found : List Issue) :
    hasCritical (found.map (·.entry)) = true ↔ bucket .critical found ≠ [] := by
  rw [hasCritical, ofRank_entries]
  simp

/-- **A section sorts its issues and loses none.**  The critical rank comes before the other, and a rank without issues is
left out.  Under a rank, each file has one title, in the order in which the files first occur, and under a file stand the
lines of its issues that have code, in the order of the issues.  The numbers in the titles add up to the number in the
alert, which is that of all issues; the alert warns, and a tip closes the section, exactly when some issue is critical. -/
theorem section_regroups {changed : Json} {report : String} {found : List Issue}
    (h : Issue.parse changed report = .ok found) (hne : found ≠ []) (topic : String) :
    let shown := lines (severitySection (found.map (·.entry)) topic).toList
    let ranks := [Rank.critical, .medium].filter fun rank => bucket rank found ≠ []
    (∃ paths : Rank → List String,
      (∀ rank, (∀ path, path ∈ paths rank ↔ ∃ i ∈ bucket rank found, i.path = path) ∧
        (paths rank).Pairwise fun p q =>
          ((bucket rank found).map (·.path)).idxOf p < ((bucket rank found).map (·.path)).idxOf q) ∧
      outline shown = ranks.map fun rank =>
        (rankTitle rank (bucket rank found).length, (paths rank).map fun path =>
          (fileTitle path, ((bucket rank found).filter fun i => i.path = path).filterMap issueLine?))) ∧
    (ranks.map fun rank => (bucket rank found).length).sum = found.length ∧
    (∃ said below, shown = [] :: (if bucket .critical found = [] then "> [!CAUTION]" else "> [!WARNING]").toList ::
      (alertCount found.length ++ said) :: below) ∧
    ("> [!WARNING]".toList ∈ shown ↔ bucket .critical found ≠ []) ∧
    ("> [!TIP]".toList ∈ shown ↔ bucket .critical found ≠ []) ∧
    (bucket .critical found ≠ [] →
      [[], "> [!TIP]".toList, "> Fix CRITICAL issues before merging to production.".toList, []] <:+ shown) := by
  intro shown ranks
  have hcaptured := Issue.isCaptured_of_parse h
  have hentries : found.map (·.entry) ≠ [] := by simpa using hne
  have honeLine : ∀ e ∈ found.map (·.entry), e.IsOneLine :=
    List.forall_mem_map.2 fun i hi => isOneLine_entry (hcaptured i hi)
  have hshownRanks : shownRanks (found.map (·.entry)) = ranks := by
    simp [shownRanks, ranks, ofRank_entries]
  have hcritical := hasCritical_entries found
  refine ⟨⟨fun rank => distinct ((bucket rank found).map (·.path)), fun rank => ⟨fun path => ?_, pairwise_distinct _⟩, ?_⟩,
    ?_, ?_, ?_, ?_, fun hbucket => ?_⟩
  · rw [mem_distinct_iff, List.mem_map]
  · rw [outline_severitySection hentries honeLine, hshownRanks]
    refine List.map_congr_left fun rank _ => ?_
    rw [ofRank_entries, List.length_map, groupBy_entries, List.map_map]
    refine congrArg _ (List.map_congr_left fun path _ => ?_)
    exact congrArg _ (codeLines_entries fun i hi => hcaptured i (List.mem_filter.1 (List.mem_filter.1 hi).1).1)
  · have hlength := length_bucket found
    by_cases hc : bucket .critical found = [] <;> by_cases hm : bucket .medium found = [] <;>
      simp [ranks, hc, hm] at hlength ⊢ <;> omega
  · obtain ⟨said, below, hshown⟩ := lines_alert_first hentries topic
    refine ⟨said, below, ?_⟩
    rw [List.length_map] at hshown
    by_cases hc : hasCritical (found.map (·.entry)) = true
    · rw [alertSign, if_pos hc] at hshown
      rw [if_neg (hcritical.1 hc)]
      exact hshown
    · rw [alertSign, if_neg hc] at hshown
      rw [if_pos (not_not.1 fun hbucket => hc (hcritical.2 hbucket))]
      exact hshown
  · rw [sign_mem_iff hentries honeLine topic (by decide) ⟨'W', by decide⟩, ← hcritical]
    unfold alertSign tipLines
    by_cases hc : hasCritical (found.map (·.entry)) = true <;> simp [hc]
  · rw [sign_mem_iff hentries honeLine topic (by decide) ⟨'T', by decide⟩, ← hcritical]
    unfold alertSign tipLines
    by_cases hc : hasCritical (found.map (·.entry)) = true <;> simp [hc]
  · have htip := tipLines_isSuffix hentries topic
    rw [tipLines, if_pos (hcritical.2 hbucket)] at htip
    exact htip

/-- Two files in turn, and one issue without code of its own. -/
def mixedReport : String :=
  joinLines ["`b.py:9` - odd", "Current code: `p`", "`a.py:2` - high", "Current code: `q`", "`b.py:1` - low", "Fix: `r`"]

def mixedIssues : List Issue :=
  [⟨"b.py", 9, .medium, "odd", some "p", none⟩, ⟨"a.py", 2, .high, "high", some "q", none⟩,
    ⟨"b.py", 1, .low, "low", none, some "r"⟩]

/-- A topic that tries to be a title changes nothing. -/
theorem section_regroups_mixedReport :
    let shown := lines (severitySection (mixedIssues.map (·.entry)) "code\n### 🔴 CRITICAL (9 issues)").toList
    Issue.parse (.list ["a.py", "b.py"]) mixedReport = .ok mixedIssues ∧ mixedIssues ≠ [] ∧
      (outline shown).map Prod.fst = ["### 🔴 CRITICAL (1 issue)".toList, "### ⚠️ MEDIUM (2 issues)".toList] ∧
      "> [!WARNING]".toList ∈ shown ∧ "> [!TIP]".toList ∈ shown := by
  intro shown
  have hparse : Issue.parse (.list ["a.py", "b.py"]) mixedReport = .ok mixedIssues := parse_eq_ok (by decide +kernel)
  obtain ⟨⟨paths, -, houtline⟩, -, -, hwarning, htip, -⟩ :=
    section_regroups hparse (by decide) "code\n### 🔴 CRITICAL (9 issues)"
  have hcritical : bucket .critical mixedIssues ≠ [] := by decide
  refine ⟨hparse, by decide, ?_, hwarning.2 hcritical, htip.2 hcritical⟩
  have htitles : (outline shown).map Prod.fst =
      ([Rank.critical, .medium].filter fun rank => bucket rank mixedIssues ≠ []).map fun rank =>
        rankTitle rank (bucket rank mixedIssues).length := by
    rw [houtline, List.map_map, Function.comp_def]
  rw [htitles]
  decide +kernel

end Review
end PullReview
