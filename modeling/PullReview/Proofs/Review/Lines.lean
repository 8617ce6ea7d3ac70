import PullReview.Proofs.Issue.Captured
import PullReview.Proofs.Text.Lines
import PullReview.Review.Summary
/-!
# The lines of a section

What reviewers choose of an entry stands on one line each (`isOneLine_entry`).  So the lines of a section are known part
by part: those of an alert (`partLines_alert`), of a file (`partLines_fileBlock`), of a rank (`partLines_rankBlock`) and
of the tip.  Only the topic may hold line feeds; it is in lower case, so what it adds has no capital.
-/
namespace PullReview
namespace Review

open Text

/-! ## Entries -/

theorem shownCode_of_isTrimmed {code : String} (hne : code ≠ "") (h : isTrimmed code.toList) :
    shownCode (some code) = some code := by
  have hfilled : isFilled (some code) = true := decide_eq_true hne
  rw [shownCode, if_pos hfilled, Option.map_some, strip, (trim_eq_self_iff _).2 h, String.ofList_toList]

/-- What is shown of code that was read is the code. -/
theorem shownCode_eq {code : Option String} (h : ∀ c ∈ code, Issue.IsCapturedCode c) :
    shownCode code = code.filter (· ≠ "") := by
  cases code with
  | none => rfl
  | some c =>
    by_cases hc : c = ""
    · simp [shownCode, isFilled, hc, Option.filter_some]
    · rw [shownCode_of_isTrimmed hc (h c rfl).trimmed]
      simp [Option.filter_some, hc]

/-- What reviewers choose of an entry stands on one line each. -/
structure Entry.IsOneLine (e : Entry) : Prop where
  path : '\n' ∉ e.file.path.toList
  pathNoTick : '\x60' ∉ e.file.path.toList
  line : '\n' ∉ e.line.toList
  flushLine : '\n' ∉ e.flushLine.toList
  description : '\n' ∉ e.description.toList
  current : ∀ code ∈ e.current, '\n' ∉ code.toList
  fix : ∀ code ∈ e.fix, '\n' ∉ code.toList

@[simp] theorem break_not_mem_toDigits (n : Nat) : '\n' ∉ Nat.toDigits 10 n := fun hmem =>
  absurd (Nat.isDigit_of_mem_toDigits (by decide) (by decide) hmem) (by decide)

theorem isOneLine_entry {i : Issue} (h : i.IsCaptured) : i.entry.IsOneLine := by
  have hline : '\n' ∉ (toString i.line).toList := by simp
  have hflush : '\n' ∉ (flushRight i.line).toList := by
    have hsame : toString (i.line : Int) = toString i.line := rfl
    simp [flushRight, padLeft, hsame]
  refine ⟨h.path, h.pathNoTick, hline, hflush, h.description, ?_, ?_⟩
  · intro code hcode
    rw [Issue.entry, shownCode_eq h.current] at hcode
    exact (h.current code (Option.mem_filter_iff.1 hcode).1).noBreak
  · intro code hcode
    rw [Issue.entry, shownCode_eq h.fix] at hcode
    exact (h.fix code (Option.mem_filter_iff.1 hcode).1).noBreak

theorem mem_of_mem_ofRank {rank : Rank} {entries : List Entry} {e : Entry} (h : e ∈ ofRank rank entries) : e ∈ entries :=
  List.mem_of_mem_filter h

/-! ## Parts of a text -/

def partLines (parts : List String) : List (List Char) := parts.flatMap fun part => lines part.toList

@[simp] theorem partLines_nil : partLines [] = [] := rfl

@[simp] theorem partLines_cons (part : String) (parts : List String) :
    partLines (part :: parts) = lines part.toList ++ partLines parts := rfl

@[simp] theorem partLines_append (xs ys : List String) : partLines (xs ++ ys) = partLines xs ++ partLines ys :=
  List.flatMap_append

theorem partLines_flatMap {α : Type} (items : List α) (f : α → List String) :
    partLines (items.flatMap f) = items.flatMap fun a => partLines (f a) := List.flatMap_assoc

theorem partLines_of_not_mem : ∀ {parts : List String}, (∀ p ∈ parts, '\n' ∉ p.toList) →
    partLines parts = parts.map String.toList
  | [], _ => rfl
  | p :: rest, h => by
    rw [List.forall_mem_cons] at h
    rw [partLines_cons, lines_of_not_mem h.1, partLines_of_not_mem h.2]
    rfl

/-! ## The parts of a section -/

def fileTitle (path : String) : List Char := ("📄 **" ++ path ++ "**").toList

def rankTitle (rank : Rank) (n : Nat) : List Char :=
  ("### " ++ rank.sign ++ " " ++ rank.label ++ " (" ++ toString n ++ " " ++ issueWord n ++ ")").toList

def codeLines (entries : List Entry) : List (List Char) := (entries.filterMap codeLine?).map String.toList

theorem mem_codeLines {entries : List Entry} {line : List Char} (h : line ∈ codeLines entries) :
    ∃ text, line = ("line " ++ text).toList := by
  obtain ⟨text, htext, rfl⟩ := List.mem_map.1 h
  obtain ⟨e, -, heq⟩ := List.mem_filterMap.1 htext
  obtain ⟨code, -, rfl⟩ := Option.map_eq_some_iff.1 heq
  exact ⟨e.line ++ ": " ++ code, by simp⟩

theorem break_not_mem_codeLine? {e : Entry} (h : e.IsOneLine) {line : String} (hline : codeLine? e = some line) :
    '\n' ∉ line.toList := by
  obtain ⟨code, hcode, rfl⟩ := Option.map_eq_some_iff.1 hline
  simp [h.line, h.current code hcode]

theorem partLines_fileBlock {path : String} {entries : List Entry} (hpath : '\n' ∉ path.toList)
    (h : ∀ e ∈ entries, e.IsOneLine) :
    partLines (fileBlock path entries) =
      [[], fileTitle path, "```python".toList] ++ codeLines entries ++ [fence.toList, []] := by
  have hopening : lines ("\n📄 **" ++ path ++ "**\n" ++ fence ++ "python").toList =
      [[], fileTitle path, "```python".toList] := by
    have htitle : '\n' ∉ fileTitle path := by simp [fileTitle, hpath]
    have hsplit : ("\n📄 **" ++ path ++ "**\n" ++ fence ++ "python").toList =
        '\n' :: (fileTitle path ++ '\n' :: "```python".toList) := by simp [fileTitle, fence]
    rw [hsplit, lines_cons_break, lines, splitOn_append_cons '\n' _ _ htitle]
    rfl
  have hcode : partLines (entries.filterMap codeLine?) = codeLines entries :=
    partLines_of_not_mem fun line hline => by
      obtain ⟨e, he, heq⟩ := List.mem_filterMap.1 hline
      exact break_not_mem_codeLine? (h e he) heq
  rw [fileBlock, partLines_append, partLines_append, partLines_cons, hopening, hcode]
  rfl

theorem break_not_mem_impact {entries : List Entry} (h : ∀ e ∈ entries, e.IsOneLine) :
    '\n' ∉ (impact entries).toList := by
  have hshown : '\n' ∉ (joinWith " " ((entries.take 2).map (·.description))).toList := by
    intro hmem
    rcases mem_joinWith hmem with hsep | ⟨part, hpart, hmem⟩
    · exact absurd hsep (by decide)
    · obtain ⟨e, he, rfl⟩ := List.mem_map.1 hpart
      exact (h e (List.mem_of_mem_take he)).description hmem
  unfold impact
  by_cases hfew : entries.length ≤ 2
  · rw [if_pos hfew]
    exact hshown
  · rw [if_neg hfew, String.toList_append, String.toList_append, String.toList_append]
    simp only [List.mem_append, hshown, false_or]
    simp

theorem partLines_rankBlock (rank : Rank) {entries : List Entry} (h : ∀ e ∈ entries, e.IsOneLine) :
    partLines (rankBlock rank entries) =
      [rankTitle rank entries.length, [], ("> **Impact:** " ++ impact entries).toList, []] ++
        (groupBy (·.file) entries).flatMap fun g => partLines (fileBlock g.1.path g.2) := by
  have htitle : '\n' ∉ rankTitle rank entries.length := by
    by_cases hone : entries.length = 1 <;> cases rank <;> simp [rankTitle, Rank.sign, Rank.label, issueWord, hone]
  have himpact : '\n' ∉ ("> **Impact:** " ++ impact entries).toList := by simp [break_not_mem_impact h]
  have hlines : lines (("### " ++ rank.sign ++ " " ++ rank.label ++ " (" ++ toString entries.length ++ " " ++
      issueWord entries.length ++ ")\n").toList) = [rankTitle rank entries.length, []] := by
    rw [← lines_append_break htitle]
    simp [rankTitle]
  rw [rankBlock, partLines_append, partLines_flatMap, partLines_cons, partLines_cons, hlines, String.toList_append,
    show "\n".toList = ['\n'] from rfl, lines_append_break himpact]
  rfl

/-! ## The alert and the tip -/

def alertSign (entries : List Entry) : String := if hasCritical entries then "> [!WARNING]" else "> [!CAUTION]"

/-- What an alert says before its topic. -/
def alertCount (n : Nat) : List Char := ("> Found " ++ toString n ++ " ").toList

def IsCapital (c : Char) : Prop := 65 ≤ c.toNat ∧ c.toNat ≤ 90

instance (c : Char) : Decidable (IsCapital c) := inferInstanceAs (Decidable (_ ∧ _))

/-- A text of one line without capitals. -/
def isSmall (s : String) : Bool := s.toList.all fun c => decide (c ≠ '\n' ∧ ¬ IsCapital c)

theorem isSmall_iff {s : String} : isSmall s = true ↔ ∀ c ∈ s.toList, c ≠ '\n' ∧ ¬ IsCapital c := by
  simp only [isSmall, List.all_eq_true, decide_eq_true_eq]

/-- The topic may go over lines, but what it adds has no capital. -/
theorem lines_found (n : Nat) (topic : String) {ending : String} (hending : isSmall ending = true) :
    ∃ first others, lines ("> Found " ++ toString n ++ " " ++ lower topic ++ " " ++ issueWord n ++ ending ++ "\n").toList =
        (alertCount n ++ first) :: others ∧
      (∀ line ∈ others, ∀ c ∈ line, ¬ IsCapital c) ∧ ('\n' ∉ topic.toList → others = [[]]) := by
  let said := (lower topic ++ " " ++ issueWord n ++ ending).toList
  have hword : isSmall (issueWord n) = true := by
    unfold issueWord
    split <;> decide
  rw [isSmall_iff] at hword hending
  have hsmall : ∀ c ∈ said, ¬ IsCapital c := by
    intro c hc hcapital
    simp only [said, String.toList_append, List.mem_append] at hc
    rcases hc with ((hc | hc) | hc) | hc
    · exact capital_not_mem_lower hcapital.1 hcapital.2 topic hc
    · rw [List.mem_singleton.1 hc] at hcapital
      exact absurd hcapital (by decide)
    · exact (hword c hc).2 hcapital
    · exact (hending c hc).2 hcapital
  have hcount : '\n' ∉ alertCount n := by simp [alertCount]
  have hsplit : ("> Found " ++ toString n ++ " " ++ lower topic ++ " " ++ issueWord n ++ ending ++ "\n").toList =
      (alertCount n ++ said) ++ '\n' :: [] := by simp [alertCount, said]
  cases hlines : lines said with
  | nil => exact absurd hlines (splitOn_ne_nil '\n' said)
  | cons first rest =>
    refine ⟨first, rest ++ [[]], ?_, ?_, fun htopic => ?_⟩
    · rw [hsplit, lines, splitOn_append, ← lines, lines_append hlines hcount]
      rfl
    · intro line hline c hc
      rcases List.mem_append.1 hline with hline | hline
      · have hmem : line ∈ lines said := hlines ▸ List.mem_cons_of_mem first hline
        exact hsmall c (subset_of_mem_lines hmem hc)
      · rw [List.mem_singleton.1 hline] at hc
        cases hc
    · have hsaid : '\n' ∉ said := by
        simp only [said, String.toList_append, List.mem_append, not_or]
        exact ⟨⟨⟨break_not_mem_lower htopic, by decide⟩, fun hc => (hword _ hc).1 rfl⟩, fun hc => (hending _ hc).1 rfl⟩
      rw [lines_of_not_mem hsaid] at hlines
      rw [← (List.cons.inj hlines).2]
      rfl

/-- **An alert has its sign, its number, and no capital on any further line.** -/
theorem partLines_alert (entries : List Entry) (topic : String) :
    ∃ first others,
      partLines (alert entries topic) = [[], (alertSign entries).toList, alertCount entries.length ++ first] ++ others ∧
      (∀ line ∈ others, ∀ c ∈ line, ¬ IsCapital c) ∧ ('\n' ∉ topic.toList → others = [[]]) := by
  obtain ⟨ending, hending, halert⟩ : ∃ ending : String, isSmall ending = true ∧
      alert entries topic = ["\n" ++ alertSign entries, "> Found " ++ toString entries.length ++ " " ++ lower topic ++
        " " ++ issueWord entries.length ++ ending ++ "\n"] := by
    unfold alert alertSign
    by_cases hcritical : hasCritical entries = true
    · refine ⟨" that need attention before merging.", by decide, ?_⟩
      simp only [if_pos hcritical, String.append_assoc]
      rfl
    · refine ⟨" to review.", by decide, ?_⟩
      simp only [if_neg hcritical, String.append_assoc]
      rfl
  obtain ⟨first, others, hlines, hothers⟩ := lines_found entries.length topic hending
  have hsign : '\n' ∉ (alertSign entries).toList := by
    unfold alertSign
    split <;> decide
  refine ⟨first, others, ?_, hothers⟩
  rw [halert, partLines_cons, partLines_cons, hlines, String.toList_append, show "\n".toList = ['\n'] from rfl,
    List.singleton_append, lines_cons_break, lines_of_not_mem hsign, partLines_nil]
  simp

/-! ## The whole section -/

def shownRanks (entries : List Entry) : List Rank := [Rank.critical, .medium].filter fun rank => ofRank rank entries ≠ []

theorem mem_shownRanks {entries : List Entry} {e : Entry} (h : e ∈ entries) : e.rank ∈ shownRanks entries := by
  have hmem : e ∈ ofRank e.rank entries := List.mem_filter.2 ⟨h, decide_eq_true rfl⟩
  refine List.mem_filter.2 ⟨?_, decide_eq_true (List.ne_nil_of_mem hmem)⟩
  cases e.rank <;> simp

theorem rankBlocks_eq (entries : List Entry) :
    rankBlocks entries = (shownRanks entries).map fun rank => rankBlock rank (ofRank rank entries) := by
  unfold rankBlocks shownRanks
  rw [← List.filterMap_eq_map, List.filterMap_filter]
  refine List.filterMap_congr fun rank _ => ?_
  cases hgroup : ofRank rank entries <;> simp [hgroup]

def ruleLines : List (List Char) := [[], "---".toList, []]

def tipLines (entries : List Entry) : List (List Char) :=
  if hasCritical entries then
    [[], "> [!TIP]".toList, "> Fix CRITICAL issues before merging to production.".toList, []]
  else []

theorem partLines_tip (entries : List Entry) : partLines (tip entries) = tipLines entries := by
  unfold tip tipLines
  split <;> rfl

theorem partLines_intersperse (sep : List String) : ∀ blocks : List (List String),
    partLines (blocks.intersperse sep).flatten = ((blocks.map partLines).intersperse (partLines sep)).flatten
  | [] => rfl
  | [block] => by simp
  | block :: next :: rest => by
    have ih := partLines_intersperse sep (next :: rest)
    simp only [List.map_cons, List.intersperse_cons_cons, List.flatten_cons, partLines_append] at ih ⊢
    rw [ih]

theorem lines_severitySection {entries : List Entry} (hne : entries ≠ []) (topic : String) :
    lines (severitySection entries topic).toList = partLines (alert entries topic) ++
      (((shownRanks entries).map fun rank => partLines (rankBlock rank (ofRank rank entries))).intersperse
        ruleLines).flatten ++ tipLines entries := by
  have hparts : sectionParts entries topic ≠ [] := by
    unfold sectionParts alert
    split <;> simp
  have hempty : entries.isEmpty = false := by simp [hne]
  rw [severitySection, hempty, if_neg Bool.false_ne_true, lines_joinLines_flatMap hparts, ← partLines, sectionParts,
    partLines_append, partLines_append, partLines_intersperse, rankBlocks_eq, List.map_map, partLines_tip]
  rfl

end Review
end PullReview
