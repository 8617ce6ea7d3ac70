import PullReview.Issue.Parse
import PullReview.Proofs.Issue.Grammar
/-!
# Reading what was written

Issues written in the form that reviewers are asked for, and read again.  Code that looks like a location ends the
search for code below a header: `readBack` says what is left of an issue then, and `parse_written` that reading gives
just that for any list of issues.  So the list comes back whole exactly when no piece of code in it looks like a
location (`parse_written_iff`).
-/
namespace PullReview
namespace Issue

open Text

/-! ## Line numbers -/

theorem digit?_of_isDigit {c : Char} (h : c.isDigit = true) : digit? c = some (c.toNat - 48) := by
  obtain ⟨hlo, hhi⟩ := Char.isDigit_iff_toNat.1 h
  have hlo : 48 ≤ c.toNat := hlo
  have hhi : c.toNat ≤ 57 := hhi
  have hrange : (decide (48 ≤ c.toNat) && decide (c.toNat ≤ 57)) = true := by simp [hlo, hhi]
  simp only [digit?]
  rw [if_pos (by omega), if_pos hrange]

theorem isDigit_of_mem_toDigits (n : Nat) : ∀ d ∈ Nat.toDigits 10 n, isDigit d = true := fun d hd => by
  rw [isDigit, digit?_of_isDigit (Nat.isDigit_of_mem_toDigits (by decide) (by decide) hd)]
  rfl

theorem foldl_digit? : ∀ (ds : List Char) (acc : Nat), (∀ d ∈ ds, d.isDigit = true) →
    ds.foldl (fun acc c => 10 * acc + (digit? c).getD 0) acc = Nat.ofDigitChars 10 ds acc
  | [], acc, _ => rfl
  | d :: ds, acc, h => by
    rw [List.foldl_cons, Nat.ofDigitChars_cons, digit?_of_isDigit (h d List.mem_cons_self),
      foldl_digit? ds _ fun e he => h e (List.mem_cons_of_mem d he)]
    rfl

theorem readLine_toDigits (n : Nat) (h : (toString n).length ≤ digitLimit) : readLine (Nat.toDigits 10 n) = .ok n := by
  have hlen : (Nat.toDigits 10 n).length ≤ digitLimit := by
    rwa [Nat.toString_eq_repr, ← String.length_toList, Nat.toList_repr] at h
  have hdigits : ∀ d ∈ Nat.toDigits 10 n, d.isDigit = true := fun d hd =>
    Nat.isDigit_of_mem_toDigits (by decide) (by decide) hd
  rw [readLine, if_neg (by omega), numeral, foldl_digit? _ 0 hdigits, Nat.ofDigitChars_ten_toDigits]

/-! ## Issues that can be written -/

/-- Code that can stand on one line between backticks, and looks the same when white space is taken off. -/
structure IsShowable (code : String) : Prop where
  ne : code ≠ ""
  noTick : '\x60' ∉ code.toList
  noBreak : '\n' ∉ code.toList
  stripped : strip code = code

/-- An issue on one of the changed files that can be written in one header line and a line for each piece of code. -/
structure IsWritable (files : List String) (i : Issue) : Prop where
  pathNe : i.path ≠ ""
  pathNoTick : '\x60' ∉ i.path.toList
  pathNoBreak : '\n' ∉ i.path.toList
  changed : ∃ file ∈ files, i.path.toList <:+: file.toList
  lineDigits : (toString i.line).length ≤ digitLimit
  descriptionNe : i.description ≠ ""
  descriptionNoBreak : '\n' ∉ i.description.toList
  descriptionStripped : strip i.description = i.description
  hasCode : i.current ≠ none ∨ i.fix ≠ none
  showable : ∀ code, i.current = some code ∨ i.fix = some code → IsShowable code

/-- An issue as it is read: its severity is the one that its header line speaks of. -/
def asRead (i : Issue) : Issue := { i with severity := severityOf i.headerLine.toList }

theorem isTrimmed_of_strip {s : String} (h : strip s = s) : isTrimmed s.toList := by
  rw [← trim_eq_self_iff]
  have := congrArg String.toList h
  rwa [strip, String.toList_ofList] at this

theorem toList_ne_nil {s : String} (h : s ≠ "") : s.toList ≠ [] := fun hs =>
  h (String.toList_inj.1 (hs.trans String.toList_empty.symm))

/-! ## The header line -/

theorem headerLine_toList (i : Issue) :
    i.headerLine.toList = ['-', ' '] ++ '\x60' :: ((i.path.toList ++ ':' :: Nat.toDigits 10 i.line) ++
      '\x60' :: ' ' :: '-' :: ' ' :: i.description.toList) := by
  simp [headerLine]

variable {files : List String} {i : Issue}

theorem tick_not_mem_run (h : i.IsWritable files) : '\x60' ∉ i.path.toList ++ ':' :: Nat.toDigits 10 i.line := by
  rw [List.mem_append, List.mem_cons, not_or, not_or]
  refine ⟨h.pathNoTick, by decide, fun hmem => ?_⟩
  exact absurd (isDigit_of_mem_toDigits i.line _ hmem) (by decide)

theorem location?_run (h : i.IsWritable files) :
    location? (i.path.toList ++ ':' :: Nat.toDigits 10 i.line) = some ⟨i.path.toList, Nat.toDigits 10 i.line⟩ :=
  (location?_eq_some_iff _ _).2 ⟨rfl, toList_ne_nil h.pathNe, Nat.toDigits_ne_nil, isDigit_of_mem_toDigits i.line⟩

theorem hasLocation_headerLine (h : i.IsWritable files) : hasLocation i.headerLine.toList = true := by
  rw [headerLine_toList]
  exact hasLocation_located _ (by decide) (tick_not_mem_run h) (by rw [location?_run h]; rfl)

theorem opening?_headerLine (h : i.IsWritable files) :
    opening? i.headerLine.toList = some ⟨⟨i.path.toList, Nat.toDigits 10 i.line⟩, i.description.toList⟩ := by
  have hheader : header? i.headerLine.toList =
      some ⟨⟨i.path.toList, Nat.toDigits 10 i.line⟩, i.description.toList⟩ := by
    rw [headerLine_toList]
    exact header?_located (by decide) (tick_not_mem_run h) (location?_run h)
      (description?_dash (isTrimmed_of_strip h.descriptionStripped))
  have hskip : isSkipped i.headerLine.toList = false := by rw [headerLine_toList]; rfl
  rw [opening?, hskip, hheader]
  rfl

theorem trim_headerLine (h : i.IsWritable files) : trim i.headerLine.toList = i.headerLine.toList := by
  have hlast := (isTrimmed_of_strip h.descriptionStripped).2
  rw [trim_eq_self_iff, isTrimmed, headerLine_toList]
  refine ⟨by simp; decide, fun c hc => hlast c ?_⟩
  have hne := toList_ne_nil h.descriptionNe
  simpa [List.getLast?_append, List.getLast?_cons, List.getLast?_eq_some_getLast hne] using hc

theorem break_not_mem_headerLine (h : i.IsWritable files) : '\n' ∉ i.headerLine.toList := by
  have hdigits : '\n' ∉ Nat.toDigits 10 i.line := fun hmem =>
    absurd (isDigit_of_mem_toDigits i.line _ hmem) (by decide)
  rw [headerLine_toList]
  simp [h.pathNoBreak, h.descriptionNoBreak, hdigits]

/-! ## The lines below it -/

/-- What stands before the code on a line with this label. -/
def lead (label : String) : List Char := '-' :: ' ' :: (label.toList ++ [' '])

def codeLines (i : Issue) : List (List Char) :=
  (i.current.map fun code => quotedLine (lead "**Current code:**") code.toList).toList ++
    (i.fix.map fun code => quotedLine (lead "**Fix:**") code.toList).toList

theorem codeLine_toList (label code : String) :
    (codeLine label code).toList = [' ', ' '] ++ quotedLine (lead label) code.toList := by
  simp [codeLine, quotedLine, lead]

/-- A line of code ends with a backtick, so the indentation is all that trimming takes off. -/
theorem trim_codeLine (label code : String) :
    trim (codeLine label code).toList = quotedLine (lead label) code.toList := by
  rw [codeLine_toList, trim_append_of_blank _ _ (by simp; decide), trim_eq_self_iff, isTrimmed, quotedLine, lead]
  constructor
  · simp
    decide
  · simp [List.getLast?_append, List.getLast?_cons]
    decide

theorem trim_writtenLines (h : i.IsWritable files) :
    i.writtenLines.map (fun line => trim line.toList) = i.headerLine.toList :: i.codeLines := by
  rw [writtenLines, codeLines]
  cases i.current <;> cases i.fix <;> simp [trim_headerLine h, trim_codeLine]

theorem break_not_mem_codeLine {label code : String} (hlabel : '\n' ∉ label.toList) (hcode : '\n' ∉ code.toList) :
    '\n' ∉ (codeLine label code).toList := by
  simp [codeLine_toList, quotedLine, lead, hlabel, hcode]

theorem break_not_mem_writtenLines (h : i.IsWritable files) : ∀ line ∈ i.writtenLines, '\n' ∉ line.toList := by
  intro line hline
  simp only [writtenLines, List.mem_append, List.mem_singleton, Option.mem_toList, Option.map_eq_some_iff] at hline
  rcases hline with (rfl | ⟨code, hcode, rfl⟩) | ⟨code, hcode, rfl⟩
  · exact break_not_mem_headerLine h
  · exact break_not_mem_codeLine (by decide) (h.showable code (.inl hcode)).noBreak
  · exact break_not_mem_codeLine (by decide) (h.showable code (.inr hcode)).noBreak

/-! ## The code that is found -/

/-- The code reads like a location, so the search for code ends at its line. -/
def showsLocation (code : String) : Bool := (location? code.toList).isSome

/-- **The search for code ends at the next location**, whatever stands behind it. -/
theorem window_append (lines rest : List (List Char)) (hrest : ∀ line ∈ rest.head?, hasLocation line = true) :
    window (lines ++ rest) = window lines := by
  have hstop : (rest.take (reach - lines.length)).takeWhile (fun line => !hasLocation line) = [] := by
    cases rest with
    | nil => simp
    | cons line rest =>
      cases reach - lines.length with
      | zero => rfl
      | succ n => rw [List.take_succ_cons, List.takeWhile_cons_of_neg (by simp [hrest line rfl])]
  rw [window, window, List.take_append, List.takeWhile_append, hstop, List.append_nil]
  split
  · rename_i hall
    exact ((List.takeWhile_prefix _).eq_of_length hall).symm
  · rfl

theorem window_of_length_le {lines : List (List Char)} (h : lines.length ≤ reach) :
    window lines = lines.takeWhile fun line => !hasLocation line := by
  rw [window, List.take_of_length_le h]

theorem lookAt_codeLine {labels : List (List Char)} (hlabels : ∀ label ∈ labels, '\x60' ∉ label) {label code : String}
    (hlabel : '\x60' ∉ lead label) (hcode : IsShowable code) :
    lookAt labels none (quotedLine (lead label) code.toList) =
      if labels.any (announces · (lead label)) then some code.toList else none := by
  have hfound := firstLabelled?_quotedLine hlabel hcode.noTick (toList_ne_nil hcode.ne) labels hlabels
  rw [(trim_eq_self_iff _).2 (isTrimmed_of_strip hcode.stripped)] at hfound
  simp only [lookAt, hfound]
  split <;> rfl

theorem lookAt_some {labels : List (List Char)} {code : String} (hne : code ≠ "") (line : List Char) :
    lookAt labels (some code.toList) line = some code.toList := by
  obtain ⟨c, cs, hcs⟩ := List.exists_cons_of_ne_nil (toList_ne_nil hne)
  rw [hcs, lookAt]

theorem hasLocation_codeLine {label code : String} (hlabel : '\x60' ∉ lead label) (hcode : IsShowable code) :
    hasLocation (quotedLine (lead label) code.toList) = showsLocation code :=
  hasLocation_quotedLine hlabel hcode.noTick

theorem tick_not_mem_currentLabels : ∀ label ∈ currentLabels, '\x60' ∉ label := by decide

theorem tick_not_mem_fixLabels : ∀ label ∈ fixLabels, '\x60' ∉ label := by decide

theorem tick_not_mem_currentLead : '\x60' ∉ lead "**Current code:**" := by decide

theorem tick_not_mem_fixLead : '\x60' ∉ lead "**Fix:**" := by decide

theorem announced :
    currentLabels.any (announces · (lead "**Current code:**")) = true ∧
      currentLabels.any (announces · (lead "**Fix:**")) = false ∧
      fixLabels.any (announces · (lead "**Current code:**")) = false ∧
      fixLabels.any (announces · (lead "**Fix:**")) = true := by decide

/-- The current code of an issue, unless it reads like a location. -/
def visibleCurrent (i : Issue) : Option String := i.current.filter fun code => !showsLocation code

/-- The fix of an issue, unless it, or the current code above it, reads like a location. -/
def visibleFix (i : Issue) : Option String :=
  if i.current.any showsLocation then none else i.fix.filter fun code => !showsLocation code

theorem code?_codeLines (h : i.IsWritable files) :
    code? currentLabels (i.codeLines.takeWhile fun line => !hasLocation line) = i.visibleCurrent ∧
      code? fixLabels (i.codeLines.takeWhile fun line => !hasLocation line) = i.visibleFix := by
  -- each label announces code to its own search only
  obtain ⟨hcc, hcf, hfc, hff⟩ := announced
  have hcurrent (code : String) (hs : IsShowable code) :
      lookAt currentLabels none (quotedLine (lead "**Current code:**") code.toList) = some code.toList ∧
        lookAt fixLabels none (quotedLine (lead "**Current code:**") code.toList) = none ∧
        hasLocation (quotedLine (lead "**Current code:**") code.toList) = showsLocation code := by
    rw [lookAt_codeLine tick_not_mem_currentLabels tick_not_mem_currentLead hs, hcc,
      lookAt_codeLine tick_not_mem_fixLabels tick_not_mem_currentLead hs, hfc]
    exact ⟨rfl, rfl, hasLocation_codeLine tick_not_mem_currentLead hs⟩
  have hfix (code : String) (hs : IsShowable code) :
      lookAt currentLabels none (quotedLine (lead "**Fix:**") code.toList) = none ∧
        lookAt fixLabels none (quotedLine (lead "**Fix:**") code.toList) = some code.toList ∧
        hasLocation (quotedLine (lead "**Fix:**") code.toList) = showsLocation code := by
    rw [lookAt_codeLine tick_not_mem_currentLabels tick_not_mem_fixLead hs, hcf,
      lookAt_codeLine tick_not_mem_fixLabels tick_not_mem_fixLead hs, hff]
    exact ⟨rfl, rfl, hasLocation_codeLine tick_not_mem_fixLead hs⟩
  have hshow := h.showable
  rw [codeLines, visibleCurrent, visibleFix]
  cases hc : i.current with
  | none =>
    cases hf : i.fix with
    | none => simp [code?]
    | some f =>
      obtain ⟨h1, h2, h3⟩ := hfix f (hshow f (.inr hf))
      cases hl : showsLocation f <;> simp [code?, Option.filter_some, h1, h2, h3, hl]
  | some c =>
    have hs := hshow c (.inl hc)
    obtain ⟨h1, h2, h3⟩ := hcurrent c hs
    cases hl : showsLocation c with
    | true => simp [code?, Option.filter_some, h3, hl]
    | false =>
      cases hf : i.fix with
      | none => simp [code?, Option.filter_some, h1, h2, h3, hl]
      | some f =>
        obtain ⟨-, h5, h6⟩ := hfix f (hshow f (.inr hf))
        cases hlf : showsLocation f <;>
          simp [code?, Option.filter_some, h1, h2, h3, h5, h6, hl, hlf, lookAt_some hs.ne]

/-! ## Reading -/

/-- What reading makes of a written issue: nothing when it is left without code. -/
def readBack (i : Issue) : Option Issue :=
  if i.visibleCurrent.isSome || i.visibleFix.isSome then
    some { i with severity := severityOf i.headerLine.toList, current := i.visibleCurrent, fix := i.visibleFix }
  else none

theorem isChanged_texts (path : String) : ∀ files : List String,
    isChanged path (files.map .text) = .ok (files.any fun file => containsText path file)
  | [] => rfl
  | file :: rest => by
    have ih := isChanged_texts path rest
    rw [List.map_cons, isChanged, List.any_cons, Json.holds]
    cases h : containsText path file
    · exact ih
    · rfl

theorem isChanged_of_isWritable (h : i.IsWritable files) : isChanged i.path (files.map .text) = .ok true := by
  obtain ⟨file, hfile, hin⟩ := h.changed
  rw [isChanged_texts, List.any_eq_true.2 ⟨file, hfile, (contains_iff _ _).2 hin⟩]

theorem isFilled_visible (h : i.IsWritable files) :
    isFilled i.visibleCurrent = i.visibleCurrent.isSome ∧ isFilled i.visibleFix = i.visibleFix.isSome := by
  have hfilled (code : Option String) (hcode : ∀ c, code = some c → c ≠ "") : isFilled code = code.isSome := by
    cases code with
    | none => rfl
    | some c => simp [isFilled, hcode c rfl]
  refine ⟨hfilled _ fun c hc => ?_, hfilled _ fun c hc => ?_⟩
  · exact (h.showable c (.inl (Option.filter_eq_some_iff.1 hc).1)).ne
  · rw [visibleFix] at hc
    split at hc
    · cases hc
    · exact (h.showable c (.inr (Option.filter_eq_some_iff.1 hc).1)).ne

theorem issueAt?_headerLine (h : i.IsWritable files) (rest : List (List Char))
    (hrest : ∀ line ∈ rest.head?, hasLocation line = true) :
    issueAt? (.ofTexts files) i.headerLine.toList (i.codeLines ++ rest) = .ok i.readBack := by
  have hlen : i.codeLines.length ≤ reach := by
    rw [codeLines]
    cases i.current <;> cases i.fix <;> simp [reach]
  obtain ⟨hcurrent, hfix⟩ := code?_codeLines h
  obtain ⟨hfc, hff⟩ := isFilled_visible h
  rw [issueAt?, opening?_headerLine h]
  simp only [readLine_toDigits i.line h.lineDigits, window_append _ rest hrest, window_of_length_le hlen, hcurrent,
    hfix, hfc, hff, String.ofList_toList, Json.ofTexts, Json.elements, isChanged_of_isWritable h, bind, Except.bind,
    pure, Except.pure, Bool.true_and, readBack, Bool.or_comm i.visibleFix.isSome]
  split <;> rfl

theorem issueAt?_codeLines (h : i.IsWritable files) (changed : Json) (below : List (List Char)) :
    ∀ line ∈ i.codeLines, issueAt? changed line below = .ok none := by
  have hnone {label code : String} (hlabel : '\x60' ∉ lead label) (hs : IsShowable code) :
      issueAt? changed (quotedLine (lead label) code.toList) below = .ok none := by
    rw [issueAt?, opening?, header?_quotedLine hlabel hs.noTick, ite_self]
  intro line hline
  simp only [codeLines, List.mem_append, Option.mem_toList, Option.map_eq_some_iff] at hline
  rcases hline with ⟨code, hcode, rfl⟩ | ⟨code, hcode, rfl⟩
  · exact hnone tick_not_mem_currentLead (h.showable code (.inl hcode))
  · exact hnone tick_not_mem_fixLead (h.showable code (.inr hcode))

theorem parseLines_append (changed : Json) (rest : List (List Char)) : ∀ lines : List (List Char),
    (∀ line ∈ lines, ∀ below, issueAt? changed line below = .ok none) →
      parseLines changed (lines ++ rest) = parseLines changed rest
  | [], _ => rfl
  | line :: lines, h => by
    have ih := parseLines_append changed rest lines fun l hl => h l (List.mem_cons_of_mem line hl)
    rw [List.cons_append, parseLines, h line List.mem_cons_self, ih]
    cases parseLines changed rest <;> rfl

theorem parseLines_issues : ∀ issues : List Issue, (∀ i ∈ issues, i.IsWritable files) →
    parseLines (.ofTexts files) (issues.flatMap fun i => i.headerLine.toList :: i.codeLines) =
      .ok (issues.filterMap readBack)
  | [], _ => rfl
  | i :: issues, h => by
    have hi := h i List.mem_cons_self
    have ih := parseLines_issues issues fun j hj => h j (List.mem_cons_of_mem i hj)
    -- what follows the lines of one issue is the header of the next, or nothing
    have hrest : ∀ line ∈ (issues.flatMap fun i => i.headerLine.toList :: i.codeLines).head?,
        hasLocation line = true := by
      cases issues with
      | nil => intro line hline; cases hline
      | cons j issues =>
        intro line hline
        obtain rfl : j.headerLine.toList = line := Option.some.inj hline
        exact hasLocation_headerLine (h j (by simp))
    have hlines := parseLines_append (.ofTexts files) (issues.flatMap fun i => i.headerLine.toList :: i.codeLines)
      i.codeLines fun line hline below => issueAt?_codeLines hi _ below line hline
    rw [List.flatMap_cons, List.cons_append, parseLines, issueAt?_headerLine hi _ hrest, hlines, ih]
    cases hback : i.readBack <;> simp [hback, bind, Except.bind, pure, Except.pure]

/-- **What reading makes of any written list**: of each issue in its order what can be seen of it. -/
theorem parse_written (issues : List Issue) (h : ∀ i ∈ issues, i.IsWritable files) :
    parse (.ofTexts files) (written issues) = .ok (issues.filterMap readBack) := by
  cases issues with
  | nil => rfl
  | cons i rest =>
    have hne : (i :: rest).flatMap writtenLines ≠ [] := by simp [writtenLines]
    have hbreak : ∀ line ∈ (i :: rest).flatMap writtenLines, '\n' ∉ line.toList := by
      intro line hline
      obtain ⟨j, hj, hmem⟩ := List.mem_flatMap.1 hline
      exact break_not_mem_writtenLines (h j hj) line hmem
    have hlines : ((i :: rest).flatMap writtenLines).map (fun line => trim line.toList) =
        (i :: rest).flatMap fun j => j.headerLine.toList :: j.codeLines := by
      rw [List.map_flatMap]
      exact List.flatMap_congr fun j hj => trim_writtenLines (h j hj)
    rw [parse, written, lines_joinLines _ hne hbreak, List.map_map]
    exact (congrArg _ hlines).trans (parseLines_issues (i :: rest) h)

/-! ## Coming back whole -/

theorem showsLocation_iff (code : String) : showsLocation code = true ↔ IsLocation code.toList :=
  location?_isSome_iff code.toList

theorem filter_eq_self_iff (code : Option String) :
    (code.filter fun c => !showsLocation c) = code ↔ code.any showsLocation = false := by
  cases code with
  | none => simp
  | some c => cases h : showsLocation c <;> simp [Option.filter_some, h]

theorem readBack_eq_asRead_iff (h : i.IsWritable files) :
    i.readBack = some i.asRead ↔ ∀ code, i.current = some code ∨ i.fix = some code → ¬ IsLocation code.toList := by
  have hseen : i.readBack = some i.asRead ↔ i.visibleCurrent = i.current ∧ i.visibleFix = i.fix := by
    rw [readBack]
    constructor
    · intro hback
      split at hback
      · have := Option.some.inj hback
        rw [asRead, Issue.mk.injEq] at this
        exact this.2.2.2.2
      · cases hback
    · rintro ⟨hc, hf⟩
      have hcode : (i.current.isSome || i.fix.isSome) = true := by
        rw [Bool.or_eq_true, Option.isSome_iff_ne_none, Option.isSome_iff_ne_none]
        exact h.hasCode
      rw [hc, hf, hcode]
      rfl
  have hany (code : Option String) :
      code.any showsLocation = false ↔ ∀ c, code = some c → ¬ IsLocation c.toList := by
    cases code with
    | none => simp
    | some c => simp [← showsLocation_iff]
  rw [hseen, visibleCurrent, filter_eq_self_iff, visibleFix]
  constructor
  · rintro ⟨hc, hf⟩ code hcode
    rw [hc, if_neg (by decide), filter_eq_self_iff] at hf
    rcases hcode with hcode | hcode
    · exact (hany _).1 hc code hcode
    · exact (hany _).1 hf code hcode
  · intro hall
    have hc := (hany i.current).2 fun c hcode => hall c (.inl hcode)
    have hf := (hany i.fix).2 fun c hcode => hall c (.inr hcode)
    rw [hc, if_neg (by decide), filter_eq_self_iff]
    exact ⟨rfl, hf⟩

theorem filterMap_eq_map_iff {α β : Type} (f : α → Option β) (g : α → β) : ∀ xs : List α,
    xs.filterMap f = xs.map g ↔ ∀ x ∈ xs, f x = some (g x)
  | [] => by simp
  | x :: xs => by
    have ih := filterMap_eq_map_iff f g xs
    cases hx : f x with
    | none =>
      -- one that is left out makes the rest too short
      have hlen : (xs.filterMap f).length ≤ xs.length := List.length_filterMap_le f xs
      rw [List.filterMap_cons_none hx, List.forall_mem_cons, hx]
      refine ⟨fun h => ?_, fun h => by cases h.1⟩
      rw [h, List.length_map, List.length_cons] at hlen
      omega
    | some y =>
      rw [List.filterMap_cons_some hx, List.map_cons, List.cons.injEq, ih, List.forall_mem_cons, hx, Option.some.injEq]

/-- **Issues that are written and read come back as they were**, each with the severity that its header line speaks of,
exactly when no code among them is a path, a colon and digits. -/
theorem parse_written_iff (files : List String) (issues : List Issue) (h : ∀ i ∈ issues, i.IsWritable files) :
    parse (.ofTexts files) (written issues) = .ok (issues.map asRead) ↔
      ∀ i ∈ issues, ∀ code, i.current = some code ∨ i.fix = some code → ¬ IsLocation code.toList := by
  rw [parse_written issues h, Except.ok.injEq, filterMap_eq_map_iff]
  exact forall₂_congr fun i hi => readBack_eq_asRead_iff (h i hi)

/-- Two issues, one whose description speaks of another location and whose code holds colons and digits, and one without
current code. -/
def slicingIssues : List Issue :=
  [⟨"main.py", 7, .low, "High risk, see `b.py:3` - too", some "x[1:9]", some "x[1:]"⟩,
    ⟨"src/main.py", 0, .low, "Slow", none, some "f(x)"⟩]

theorem isWritable_slicingIssues : ∀ i ∈ slicingIssues, i.IsWritable ["src/main.py"] := by
  rw [slicingIssues, List.forall_mem_cons, List.forall_mem_singleton]
  constructor
  · refine ⟨by decide, by decide, by decide, ⟨_, List.mem_singleton_self _, "src/".toList, [], by decide⟩, by decide,
      by decide, by decide, by decide, by decide, ?_⟩
    rintro code (h | h) <;> cases h <;> exact ⟨by decide, by decide, by decide, by decide⟩
  · refine ⟨by decide, by decide, by decide, ⟨_, List.mem_singleton_self _, [], [], by decide⟩, by decide, by decide,
      by decide, by decide, by decide, ?_⟩
    rintro code (h | h) <;> cases h
    exact ⟨by decide, by decide, by decide, by decide⟩

theorem parse_written_slicingIssues :
    (∀ i ∈ slicingIssues, i.IsWritable ["src/main.py"]) ∧
      parse (.ofTexts ["src/main.py"]) (written slicingIssues) = .ok (slicingIssues.map asRead) := by
  refine ⟨isWritable_slicingIssues, (parse_written_iff _ _ isWritable_slicingIssues).2 fun i hi code hcode => ?_⟩
  rw [← showsLocation_iff]
  simp only [slicingIssues, List.mem_cons, List.not_mem_nil, or_false] at hi
  rcases hi with rfl | rfl <;> rcases hcode with hcode | hcode <;> cases hcode <;> decide

end Issue
end PullReview
