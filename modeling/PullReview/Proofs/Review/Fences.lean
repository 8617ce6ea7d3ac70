import PullReview.Proofs.Keyed
import PullReview.Proofs.Review.Isolation
import PullReview.Proofs.Review.Lines
/-!
# Fences hold

Code is shown between fences, and reviewers choose the code, the paths and the descriptions.  `Fenced` is the grammar of
lines in which every fence that opens is closed; it is kept when lines are put behind each other.  Everything that
reviewers choose stands on one line and behind something of the review's own, so no line of theirs is a fence, and the
lines of a section (`fenced_severitySection`) and of the suggestions (`fenced_suggestionPart`) are in the grammar
whatever the reports say.
-/
namespace PullReview
namespace Review

open Text

/-! ## The grammar -/

def isFence (line : List Char) : Bool := fence.toList.isPrefixOf line

/-- Lines with fences among them, and the lines of code that stand between the fences. -/
inductive Fenced (opening : List Char) : List (List Char) → List (List Char) → Prop
  | nil : Fenced opening [] []
  | plain {line : List Char} {rest code : List (List Char)} (hline : isFence line = false)
    (hrest : Fenced opening rest code) : Fenced opening (line :: rest) code
  | block {body rest code : List (List Char)} (hbody : ∀ line ∈ body, isFence line = false)
    (hrest : Fenced opening rest code) : Fenced opening (opening :: (body ++ fence.toList :: rest)) (body ++ code)

/-- A line that stands between a fence that opens and the one that closes it. -/
def IsInside (ls : List (List Char)) (line : List Char) : Prop :=
  ∃ above below, ls = above ++ line :: below ∧ isFence line = false ∧ above.countP isFence % 2 = 1

theorem IsInside.cons_plain {first line : List Char} {rest : List (List Char)} (hfirst : isFence first = false) :
    IsInside (first :: rest) line ↔ IsInside rest line := by
  constructor
  · rintro ⟨above, below, heq, hline, hodd⟩
    cases above with
    | nil => simp at hodd
    | cons _ above =>
      obtain ⟨rfl, hrest⟩ := List.cons.inj heq
      rw [List.countP_cons_of_neg (by simp [hfirst])] at hodd
      exact ⟨above, below, hrest, hline, hodd⟩
  · rintro ⟨above, below, rfl, hline, hodd⟩
    exact ⟨first :: above, below, rfl, hline, by rwa [List.countP_cons_of_neg (by simp [hfirst])]⟩

theorem IsInside.block {opening line : List Char} {body rest : List (List Char)} (hopening : isFence opening = true)
    (hbody : ∀ line ∈ body, isFence line = false) :
    IsInside (opening :: (body ++ fence.toList :: rest)) line ↔ line ∈ body ∨ IsInside rest line := by
  have hclosing : isFence fence.toList = true := by decide
  have hnone : ∀ part : List (List Char), part ⊆ body → part.countP isFence = 0 := fun part hpart =>
    List.countP_eq_zero.2 fun l hl => by simp [hbody l (hpart hl)]
  constructor
  · rintro ⟨above, below, heq, hline, hodd⟩
    cases above with
    | nil => simp at hodd
    | cons _ above =>
      obtain ⟨rfl, htail⟩ := List.cons.inj heq
      rw [List.countP_cons_of_pos hopening] at hodd
      -- the line is in the block, or it is the closing fence, or it stands behind that
      rcases List.append_eq_append_iff.1 htail with ⟨more, rfl, hmore⟩ | ⟨more, rfl, hmore⟩
      · cases more with
        | nil =>
          obtain ⟨rfl, -⟩ := List.cons.inj hmore
          rw [hclosing] at hline
          cases hline
        | cons closing more =>
          obtain ⟨rfl, hrest⟩ := List.cons.inj hmore
          rw [List.countP_append, hnone body (List.Subset.refl body), List.countP_cons_of_pos hclosing] at hodd
          exact .inr ⟨more, below, hrest, hline, by omega⟩
      · cases more with
        | nil =>
          obtain ⟨rfl, -⟩ := List.cons.inj hmore
          rw [hclosing] at hline
          cases hline
        | cons l more =>
          obtain ⟨rfl, -⟩ := List.cons.inj hmore
          exact .inl (by simp)
  · rintro (hmem | ⟨above, below, rfl, hline, hodd⟩)
    · obtain ⟨before, after, rfl⟩ := List.append_of_mem hmem
      refine ⟨opening :: before, after ++ fence.toList :: rest, by simp, hbody line hmem, ?_⟩
      rw [List.countP_cons_of_pos hopening, hnone before (List.subset_append_left before _)]
    · refine ⟨opening :: (body ++ fence.toList :: above), below, by simp, hline, ?_⟩
      rw [List.countP_cons_of_pos hopening, List.countP_append, hnone body (List.Subset.refl body),
        List.countP_cons_of_pos hclosing]
      omega

namespace Fenced

variable {opening : List Char} {xs ys code more : List (List Char)}

theorem append (hxs : Fenced opening xs code) (hys : Fenced opening ys more) :
    Fenced opening (xs ++ ys) (code ++ more) := by
  induction hxs with
  | nil => exact hys
  | plain hline _ ih => exact .plain hline ih
  | block hbody _ ih =>
    rw [List.cons_append, List.append_assoc, List.cons_append, List.append_assoc]
    exact .block hbody ih

theorem of_plain (h : ∀ line ∈ xs, isFence line = false) : Fenced opening xs [] := by
  induction xs with
  | nil => exact .nil
  | cons line rest ih =>
    rw [List.forall_mem_cons] at h
    exact .plain h.1 (ih h.2)

theorem plain_append (hys : ∀ line ∈ ys, isFence line = false) (hxs : Fenced opening xs code) :
    Fenced opening (ys ++ xs) code := (of_plain hys).append hxs

theorem append_plain (hxs : Fenced opening xs code) (hys : ∀ line ∈ ys, isFence line = false) :
    Fenced opening (xs ++ ys) code := by simpa using hxs.append (of_plain hys)

theorem flatMap {α : Type} {f g : α → List (List Char)} : ∀ {items : List α},
    (∀ a ∈ items, Fenced opening (f a) (g a)) → Fenced opening (items.flatMap f) (items.flatMap g)
  | [], _ => .nil
  | a :: rest, h => by
    rw [List.forall_mem_cons] at h
    rw [List.flatMap_cons, List.flatMap_cons]
    exact h.1.append (flatMap h.2)

theorem intersperse {α : Type} {f g : α → List (List Char)} {sep : List (List Char)}
    (hsep : ∀ line ∈ sep, isFence line = false) : ∀ {items : List α}, (∀ a ∈ items, Fenced opening (f a) (g a)) →
      Fenced opening ((items.map f).intersperse sep).flatten (items.flatMap g)
  | [], _ => .nil
  | [a], h => by simpa using h a List.mem_cons_self
  | a :: b :: rest, h => by
    rw [List.forall_mem_cons] at h
    rw [List.map_cons, List.map_cons, List.intersperse_cons_cons, List.flatten_cons, List.flatten_cons, List.flatMap_cons]
    exact h.1.append (plain_append hsep (intersperse hsep h.2))

theorem single (hcode : ∀ line ∈ code, isFence line = false) :
    Fenced opening (opening :: (code ++ [fence.toList, []])) code := by
  have hend : Fenced opening [[]] [] := .plain rfl .nil
  simpa using block hcode hend

/-- **Fences open and close in turn.** -/
theorem alternate (hopening : isFence opening = true) (hxs : Fenced opening xs code) :
    ∃ n, xs.filter isFence = (List.replicate n [opening, fence.toList]).flatten := by
  have hclosing : isFence fence.toList = true := by decide
  induction hxs with
  | nil => exact ⟨0, rfl⟩
  | plain hline _ ih =>
    rw [List.filter_cons_of_neg (by simp [hline])]
    exact ih
  | @block body rest code hbody _ ih =>
    obtain ⟨n, hn⟩ := ih
    have hnone : body.filter isFence = [] := List.filter_eq_nil_iff.2 fun line hline => by simp [hbody line hline]
    refine ⟨n + 1, ?_⟩
    rw [List.filter_cons_of_pos hopening, List.filter_append, hnone, List.nil_append, List.filter_cons_of_pos hclosing, hn,
      List.replicate_succ, List.flatten_cons]
    rfl

/-- **Between fences stands the code.** -/
theorem isInside_iff (hopening : isFence opening = true) (hxs : Fenced opening xs code) (line : List Char) :
    IsInside xs line ↔ line ∈ code := by
  induction hxs with
  | nil => simp [IsInside]
  | plain hline _ ih => rw [IsInside.cons_plain hline, ih]
  | block hbody _ ih => rw [IsInside.block hopening hbody, ih, List.mem_append]

end Fenced

/-! ## Sections -/

theorem isFence_of_mem_codeLines {entries : List Entry} {line : List Char} (h : line ∈ codeLines entries) :
    isFence line = false := by
  obtain ⟨text, rfl⟩ := mem_codeLines h
  simp [isFence, fence, List.isPrefixOf]

theorem fenced_fileBlock {path : String} {entries : List Entry} (hpath : '\n' ∉ path.toList)
    (h : ∀ e ∈ entries, e.IsOneLine) :
    Fenced "```python".toList (partLines (fileBlock path entries)) (codeLines entries) := by
  rw [partLines_fileBlock hpath h, List.append_assoc]
  have htitle : isFence (fileTitle path) = false := by simp [isFence, fence, fileTitle, List.isPrefixOf]
  exact .plain rfl (.plain htitle (.single fun line hline => isFence_of_mem_codeLines hline))

theorem fenced_rankBlock (rank : Rank) {entries : List Entry} (h : ∀ e ∈ entries, e.IsOneLine) :
    Fenced "```python".toList (partLines (rankBlock rank entries))
      ((groupBy (·.file) entries).flatMap fun g => codeLines g.2) := by
  rw [partLines_rankBlock rank h]
  have htop : ∀ line ∈ [rankTitle rank entries.length, [], ("> **Impact:** " ++ impact entries).toList, []],
      isFence line = false := by
    simp [isFence, fence, rankTitle, List.isPrefixOf]
  refine Fenced.plain_append htop (Fenced.flatMap fun g hg => ?_)
  obtain ⟨⟨e, he, hfile⟩, -⟩ := eq_of_mem_groupBy hg
  exact fenced_fileBlock (hfile ▸ (h e he).path) fun e he => h e (mem_groupBy_iff.1 ⟨g, hg, he⟩)

/-- The lines of code of a section, rank by rank and file by file. -/
def sectionCode (entries : List Entry) : List (List Char) :=
  (shownRanks entries).flatMap fun rank => (groupBy (·.file) (ofRank rank entries)).flatMap fun g => codeLines g.2

/-- **Every fence of a section is closed.** -/
theorem fenced_severitySection {entries : List Entry} {topic : String} (htopic : '\n' ∉ topic.toList)
    (h : ∀ e ∈ entries, e.IsOneLine) :
    Fenced "```python".toList (lines (severitySection entries topic).toList) (sectionCode entries) := by
  by_cases hne : entries = []
  · rw [hne]
    exact .plain rfl .nil
  · obtain ⟨first, others, halert, -, hothers⟩ := partLines_alert entries topic
    rw [lines_severitySection hne, halert, hothers htopic]
    refine Fenced.append_plain (Fenced.plain_append ?_ (Fenced.intersperse (by decide) fun rank _ => ?_)) ?_
    · by_cases hcritical : hasCritical entries = true <;>
        simp [isFence, fence, alertSign, alertCount, hcritical, List.isPrefixOf]
    · exact fenced_rankBlock rank fun e he => h e (mem_of_mem_ofRank he)
    · unfold tipLines
      split <;> decide

theorem mem_sectionCode_iff {entries : List Entry} {line : List Char} :
    line ∈ sectionCode entries ↔ ∃ e ∈ entries, ∃ text ∈ codeLine? e, line = text.toList := by
  simp only [sectionCode, List.mem_flatMap, codeLines, List.mem_map, List.mem_filterMap]
  constructor
  · rintro ⟨rank, -, g, hg, text, ⟨e, he, htext⟩, rfl⟩
    exact ⟨e, mem_of_mem_ofRank (mem_groupBy_iff.1 ⟨g, hg, he⟩), text, htext, rfl⟩
  · rintro ⟨e, he, text, htext, rfl⟩
    have hrank : e ∈ ofRank e.rank entries := List.mem_filter.2 ⟨he, decide_eq_true rfl⟩
    obtain ⟨g, hg, hmem⟩ : ∃ g ∈ groupBy (·.file) (ofRank e.rank entries), e ∈ g.2 := mem_groupBy_iff.2 hrank
    exact ⟨e.rank, mem_shownRanks he, g, hg, text, ⟨e, hmem, htext⟩, rfl⟩

/-! ## Suggestions -/

theorem mem_changeLines_iff {e : Entry} {line : String} : line ∈ changeLines e ↔
    (∃ text ∈ e.current, changeLine "-" e.flushLine text = line) ∨
      ∃ text ∈ e.fix, changeLine "+" e.flushLine text = line := by
  rw [changeLines, List.mem_append, Option.mem_toList, Option.mem_toList, Option.map_eq_some_iff,
    Option.map_eq_some_iff]
  rfl

def changeCode (entries : List Entry) : List (List Char) :=
  ((entries.filter fun e => e.fix.isSome).flatMap changeLines).map String.toList

theorem mem_changeCode_iff {entries : List Entry} {line : List Char} : line ∈ changeCode entries ↔
    ∃ e ∈ entries, e.fix.isSome = true ∧ ∃ text ∈ changeLines e, line = text.toList := by
  simp only [changeCode, List.mem_map, List.mem_flatMap, List.mem_filter]
  constructor
  · rintro ⟨text, ⟨e, ⟨he, hfix⟩, htext⟩, rfl⟩
    exact ⟨e, he, hfix, text, htext, rfl⟩
  · rintro ⟨e, he, hfix, text, htext, rfl⟩
    exact ⟨text, ⟨e, ⟨he, hfix⟩, htext⟩, rfl⟩

theorem isFence_changeLine {e : Entry} {line : String} (h : line ∈ changeLines e) : isFence line.toList = false := by
  rcases mem_changeLines_iff.1 h with ⟨text, -, rfl⟩ | ⟨text, -, rfl⟩ <;>
    simp [changeLine, isFence, fence, List.isPrefixOf]

theorem break_not_mem_changeLine {e : Entry} (h : e.IsOneLine) {line : String} (hline : line ∈ changeLines e) :
    '\n' ∉ line.toList := by
  rcases mem_changeLines_iff.1 hline with ⟨text, htext, rfl⟩ | ⟨text, htext, rfl⟩
  · simp [changeLine, h.flushLine, h.current text htext]
  · simp [changeLine, h.flushLine, h.fix text htext]

/-- A path between single backticks is no fence. -/
theorem isFence_quoted {path : List Char} (h : '\x60' ∉ path) : isFence ('\x60' :: (path ++ ['\x60'])) = false := by
  cases path with
  | nil => decide
  | cons c cs =>
    have hc : '\x60' ≠ c := List.ne_of_not_mem_cons h
    simp [isFence, fence, List.isPrefixOf, hc]

theorem fenced_fenced {language : String} {body : List String} (hlanguage : '\n' ∉ language.toList)
    (hbody : ∀ line ∈ body, '\n' ∉ line.toList ∧ isFence line.toList = false) :
    Fenced (fence ++ language).toList (partLines (fenced language body)) (body.map String.toList) := by
  have hopening : '\n' ∉ (fence ++ language).toList := by simp [fence, hlanguage]
  have hlines : partLines (fenced language body) =
      (fence ++ language).toList :: (body.map String.toList ++ [fence.toList, []]) := by
    rw [fenced, partLines_append, partLines_append, partLines_cons, lines_of_not_mem hopening,
      partLines_of_not_mem fun line hline => (hbody line hline).1]
    rfl
  rw [hlines]
  exact .single (List.forall_mem_map.2 fun line hline => (hbody line hline).2)

theorem fenced_suggestionBlock {path : String} {entries : List Entry} (hpath : '\n' ∉ path.toList)
    (htick : '\x60' ∉ path.toList) (h : ∀ e ∈ entries, e.IsOneLine) :
    Fenced "```diff".toList (partLines (suggestionBlock path entries)) (changeCode entries) := by
  let quoted := '\x60' :: (path.toList ++ ['\x60'])
  have htitle : lines ("\n`" ++ path ++ "`\n").toList = [[], quoted, []] := by
    have hquoted : '\n' ∉ quoted := by simp [quoted, hpath]
    rw [← lines_append_break hquoted, ← lines_cons_break]
    simp [quoted]
  rw [suggestionBlock, partLines_append, partLines_cons, htitle]
  refine .plain rfl (.plain (isFence_quoted htick) (.plain rfl ?_))
  by_cases hfixes : entries.filter (fun e => e.fix.isSome) = []
  · rw [changeCode, hfixes]
    exact .nil
  · rw [if_neg (by simpa using hfixes)]
    have hdiff : '\n' ∉ "diff".toList := by decide
    refine fenced_fenced hdiff fun line hline => ?_
    obtain ⟨e, he, hline⟩ := List.mem_flatMap.1 hline
    exact ⟨break_not_mem_changeLine (h e (List.mem_of_mem_filter he)) hline, isFence_changeLine hline⟩

def suggestionCode (entries : List Entry) : List (List Char) :=
  (groupBy (·.file) entries).flatMap fun g => changeCode g.2

/-- **Every fence of the suggestions is closed.** -/
theorem fenced_suggestionPart {entries : List Entry} (h : ∀ e ∈ entries, e.IsOneLine) :
    Fenced "```diff".toList (lines (joinLines (suggestionPart entries)).toList) (suggestionCode entries) := by
  by_cases hne : entries = []
  · rw [hne]
    exact .plain rfl .nil
  · have hparts : suggestionPart entries ≠ [] := by simp [suggestionPart, hne, foldOpening]
    have hempty : entries.isEmpty = false := by simp [hne]
    rw [lines_joinLines_flatMap hparts, ← partLines, suggestionPart, hempty, if_neg Bool.false_ne_true, partLines_append,
      partLines_append, partLines_flatMap]
    refine Fenced.append_plain (Fenced.plain_append (by decide) (Fenced.flatMap fun g hg => ?_)) (by decide)
    obtain ⟨⟨e, he, hfile⟩, -⟩ := eq_of_mem_groupBy hg
    exact fenced_suggestionBlock (hfile ▸ (h e he).path) (hfile ▸ (h e he).pathNoTick) fun e he =>
      h e (mem_groupBy_iff.1 ⟨g, hg, he⟩)

theorem mem_suggestionCode_iff {entries : List Entry} {line : List Char} : line ∈ suggestionCode entries ↔
    ∃ e ∈ entries, e.fix.isSome = true ∧ ∃ text ∈ changeLines e, line = text.toList := by
  simp only [suggestionCode, List.mem_flatMap, mem_changeCode_iff]
  constructor
  · rintro ⟨g, hg, e, he, hcode⟩
    exact ⟨e, mem_groupBy_iff.1 ⟨g, hg, he⟩, hcode⟩
  · rintro ⟨e, he, hcode⟩
    obtain ⟨g, hg, hmem⟩ : ∃ g ∈ groupBy (·.file) entries, e ∈ g.2 := mem_groupBy_iff.2 he
    exact ⟨g, hg, e, hmem, hcode⟩

/-! ## Issues that were read -/

/-- Fences open and close in turn, from the first to the last, and the lines between them are the lines of code. -/
structure KeepsFences (opening : String) (code : List Char → Prop) (text : String) : Prop where
  alternate : ∃ n, (lines text.toList).filter isFence = (List.replicate n [opening.toList, fence.toList]).flatten
  inside : ∀ line, IsInside (lines text.toList) line ↔ code line

theorem Fenced.keepsFences {opening : String} {text : String} {code : List (List Char)}
    (h : Fenced opening.toList (lines text.toList) code) (hopening : isFence opening.toList = true)
    {shown : List Char → Prop} (hshown : ∀ line, line ∈ code ↔ shown line) : KeepsFences opening shown text :=
  ⟨h.alternate hopening, fun line => (h.isInside_iff hopening line).trans (hshown line)⟩

theorem mem_shownCode_iff {code : Option String} (h : ∀ c ∈ code, Issue.IsCapturedCode c) {text : String} :
    text ∈ shownCode code ↔ text ∈ code ∧ text ≠ "" := by
  rw [shownCode_eq h, Option.mem_filter_iff, decide_eq_true_eq]

theorem codeLine?_entry_iff {i : Issue} (h : i.IsCaptured) {line : List Char} :
    (∃ text ∈ codeLine? i.entry, line = text.toList) ↔
      ∃ code ∈ i.current, code ≠ "" ∧ line = ("line " ++ toString i.line ++ ": " ++ code).toList := by
  constructor
  · rintro ⟨text, htext, rfl⟩
    obtain ⟨code, hcode, rfl⟩ := Option.mem_map.1 htext
    obtain ⟨hmem, hfilled⟩ := (mem_shownCode_iff h.current).1 hcode
    exact ⟨code, hmem, hfilled, rfl⟩
  · rintro ⟨code, hmem, hfilled, rfl⟩
    exact ⟨_, Option.mem_map_of_mem _ ((mem_shownCode_iff h.current).2 ⟨hmem, hfilled⟩), rfl⟩

theorem changeLines_entry_iff {i : Issue} (h : i.IsCaptured) {line : List Char} :
    (i.entry.fix.isSome = true ∧ ∃ text ∈ changeLines i.entry, line = text.toList) ↔
      ∃ fix ∈ i.fix, fix ≠ "" ∧ (line = ("+ " ++ flushRight i.line ++ "  " ++ fix).toList ∨
        ∃ code ∈ i.current, code ≠ "" ∧ line = ("- " ++ flushRight i.line ++ "  " ++ code).toList) := by
  constructor
  · rintro ⟨hfix, text, htext, rfl⟩
    obtain ⟨fix, hfix⟩ := Option.isSome_iff_exists.1 hfix
    obtain ⟨hmem, hfilled⟩ := (mem_shownCode_iff h.fix).1 hfix
    refine ⟨fix, hmem, hfilled, ?_⟩
    rcases mem_changeLines_iff.1 htext with ⟨code, hcode, rfl⟩ | ⟨code, hcode, rfl⟩
    · obtain ⟨hcode, hsome⟩ := (mem_shownCode_iff h.current).1 hcode
      exact .inr ⟨code, hcode, hsome, rfl⟩
    · obtain rfl : fix = code := Option.some.inj (hfix.symm.trans hcode)
      exact .inl rfl
  · rintro ⟨fix, hmem, hfilled, hline⟩
    have hfix : fix ∈ i.entry.fix := (mem_shownCode_iff h.fix).2 ⟨hmem, hfilled⟩
    refine ⟨Option.isSome_iff_exists.2 ⟨fix, hfix⟩, ?_⟩
    rcases hline with hnew | ⟨code, hcode, hsome, hold⟩
    · exact ⟨changeLine "+" i.entry.flushLine fix, mem_changeLines_iff.2 (.inr ⟨fix, hfix, rfl⟩), hnew⟩
    · have hcurrent : code ∈ i.entry.current := (mem_shownCode_iff h.current).2 ⟨hcode, hsome⟩
      exact ⟨changeLine "-" i.entry.flushLine code, mem_changeLines_iff.2 (.inl ⟨code, hcurrent, rfl⟩), hold⟩

theorem infix_review_suggestionPart {f : Findings} (hne : f.quality ≠ []) :
    lines (joinLines (suggestionPart f.quality)).toList <:+: lines f.review.toList := by
  have hdirty : f.isClean = false := by simp [Findings.isClean, hne]
  have hpart : suggestionPart f.quality ≠ [] := by simp [suggestionPart, hne, foldOpening]
  have hparts : f.parts ≠ [] := by simp [Findings.parts, hdirty, footer]
  rw [Findings.review, lines_joinLines_flatMap hparts, lines_joinLines_flatMap hpart, ← partLines, ← partLines,
    Findings.parts, hdirty, if_neg Bool.false_ne_true, partLines_append, partLines_append]
  exact List.infix_append _ _ _

/-- **Reports cannot break the fences.**  Whatever was written, the fences of a section and of the suggestions open and
close in turn.  Between those of a section stands the code of each issue that was read and has any, a line for each, and
nothing else; between those of the suggestions stand, for each issue with a fix, the new line and the old one, if it is
known, and nothing else.  The suggestions are a part of the review. -/
theorem fences_kept {changed : Json} {report : String} {found : List Issue} (h : Issue.parse changed report = .ok found)
    (topic : String) (htopic : '\n' ∉ topic.toList) :
    KeepsFences "```python"
        (fun line => ∃ i ∈ found, ∃ code ∈ i.current,
          code ≠ "" ∧ line = ("line " ++ toString i.line ++ ": " ++ code).toList)
        (severitySection (found.map (·.entry)) topic) ∧
      KeepsFences "```diff"
        (fun line => ∃ i ∈ found, ∃ fix ∈ i.fix, fix ≠ "" ∧
          (line = ("+ " ++ flushRight i.line ++ "  " ++ fix).toList ∨
            ∃ code ∈ i.current, code ≠ "" ∧ line = ("- " ++ flushRight i.line ++ "  " ++ code).toList))
        (joinLines (suggestionPart (found.map (·.entry)))) ∧
      ∀ f : Findings, f.quality = found.map (·.entry) → found ≠ [] →
        lines (joinLines (suggestionPart (found.map (·.entry)))).toList <:+: lines f.review.toList := by
  have hcaptured := Issue.isCaptured_of_parse h
  have honeLine : ∀ e ∈ found.map (·.entry), e.IsOneLine :=
    List.forall_mem_map.2 fun i hi => isOneLine_entry (hcaptured i hi)
  refine ⟨(fenced_severitySection htopic honeLine).keepsFences rfl fun line => ?_,
    (fenced_suggestionPart honeLine).keepsFences rfl fun line => ?_, fun f hquality hne => ?_⟩
  · simp only [mem_sectionCode_iff, List.mem_map, exists_exists_and_eq_and]
    exact exists_congr fun i => and_congr_right fun hi => codeLine?_entry_iff (hcaptured i hi)
  · simp only [mem_suggestionCode_iff, List.mem_map, exists_exists_and_eq_and]
    exact exists_congr fun i => and_congr_right fun hi => changeLines_entry_iff (hcaptured i hi)
  · rw [← hquality]
    refine infix_review_suggestionPart ?_
    rw [hquality]
    simpa using hne

/-- A report that writes fences wherever it may. -/
def fencingReport : String := "```\n- `a.py:3` - ```python\n  - **Current code:** ```` ```\n  - **Fix:** ``x`\n```"

def fencingIssue : Issue := ⟨"a.py", 3, .medium, "```python", some "`", some "`x"⟩

theorem fences_kept_fencingReport :
    Issue.parse (.list ["a.py"]) fencingReport = .ok [fencingIssue] ∧
      (∃ n, (lines (severitySection [fencingIssue.entry] "security").toList).filter isFence =
        (List.replicate n ["```python".toList, "```".toList]).flatten) ∧
      IsInside (lines (severitySection [fencingIssue.entry] "security").toList) "line 3: `".toList ∧
      IsInside (lines (joinLines (suggestionPart [fencingIssue.entry])).toList) "-    3  `".toList ∧
      IsInside (lines (joinLines (suggestionPart [fencingIssue.entry])).toList) "+    3  `x".toList := by
  have hparse : Issue.parse (.list ["a.py"]) fencingReport = .ok [fencingIssue] := parse_eq_ok (by decide +kernel)
  obtain ⟨hsection, hsuggestions, -⟩ := fences_kept hparse "security" (by decide)
  have hmem : fencingIssue ∈ [fencingIssue] := List.mem_singleton_self fencingIssue
  refine ⟨hparse, hsection.alternate, (hsection.inside _).2 ?_, (hsuggestions.inside _).2 ?_, (hsuggestions.inside _).2 ?_⟩
  · exact ⟨fencingIssue, hmem, "`", rfl, by decide, by decide +kernel⟩
  · exact ⟨fencingIssue, hmem, "`x", rfl, by decide, .inr ⟨"`", rfl, by decide, by decide +kernel⟩⟩
  · exact ⟨fencingIssue, hmem, "`x", rfl, by decide, .inl (by decide +kernel)⟩

end Review
end PullReview
