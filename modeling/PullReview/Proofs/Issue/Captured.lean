import PullReview.Proofs.Issue.Reading
/-!
# What reading takes from a line

Whatever reading puts into an issue is a piece of a single line: the path and the description of its header
(`header?_subset`), the code of one of the lines below (`exists_of_code?`).  So no text of an issue has a line feed in it,
its path has no backtick, and its code has no white space at its ends (`isCaptured_of_parse`).
-/
namespace PullReview
namespace Issue

open Text

/-! ## Headers -/

theorem headerAt?_subset {s : List Char} {header : Header} (h : headerAt? s = some header) : header.description ⊆ s := by
  unfold headerAt? at h
  split at h
  · rename_i loc rest hloc
    obtain ⟨d, hd, rfl⟩ := Option.map_eq_some_iff.1 h
    obtain ⟨gap, c, post, rfl, -, rfl⟩ := (description?_eq_some_iff rest d).1 hd
    obtain ⟨hs, -⟩ := (locationAt?_eq_some_iff s _ loc).1 hloc
    have hpost : c :: post ⊆ s := by
      rw [(List.cons.inj hs).2]
      exact fun x hx => List.mem_append_right _ (List.mem_append_right _ (List.mem_cons_of_mem _ hx))
    exact List.Subset.trans (trim_isInfix (c :: post)).subset hpost
  · cases h

theorem header?_subset {header : Header} : ∀ {line : List Char}, header? line = some header → header.description ⊆ line
  | c :: cs, h => by
    rw [header?, Option.orElse_eq_orElse, Option.orElse_eq_or, Option.or_eq_some_iff] at h
    rcases h with h | ⟨-, h⟩
    · split at h
      · exact List.subset_cons_of_subset c (headerAt?_subset h)
      · cases h
    · exact List.subset_cons_of_subset c (header?_subset h)

/-! ## Code -/

theorem labelled?_eq_some {label code : List Char} : ∀ {line : List Char}, labelled? label line = some code →
    ∃ piece, piece ⊆ line ∧ code = trim piece
  | c :: cs, h => by
    rw [labelled?, Option.orElse_eq_orElse, Option.orElse_eq_or, Option.or_eq_some_iff] at h
    rcases h with h | ⟨-, h⟩
    · obtain ⟨blanks, c', piece, rest, hline, -, -, rfl⟩ := (codeAt?_eq_some_iff label (c :: cs) code).1 h
      refine ⟨c' :: piece, ?_, rfl⟩
      rw [hline]
      intro x hx
      simp only [List.mem_append, List.mem_cons] at hx ⊢
      tauto
    · obtain ⟨piece, hpiece, rfl⟩ := labelled?_eq_some h
      exact ⟨piece, List.subset_cons_of_subset c hpiece, rfl⟩

/-- What one more line does to the code found so far. -/
theorem lookAt_eq_some {labels : List (List Char)} {found : Option (List Char)} {line code : List Char}
    (h : lookAt labels found line = some code) :
    found = some code ∨ ∃ label ∈ labels, labelled? label line = some code := by
  unfold lookAt at h
  split at h
  · exact .inl h
  · rw [Option.orElse_eq_orElse, Option.orElse_eq_or, Option.or_eq_some_iff] at h
    rcases h with h | ⟨-, h⟩
    · exact .inr (List.exists_of_findSome?_eq_some h)
    · exact .inl h

theorem foldl_lookAt_eq_some {labels : List (List Char)} {code : List Char} : ∀ {read : List (List Char)}
    {found : Option (List Char)}, read.foldl (lookAt labels) found = some code →
      found = some code ∨ ∃ line ∈ read, ∃ label ∈ labels, labelled? label line = some code
  | [], _, h => .inl h
  | line :: rest, found, h => by
    rw [List.foldl_cons] at h
    rcases foldl_lookAt_eq_some h with h | ⟨line', hline', hlabel⟩
    · rcases lookAt_eq_some h with h | hlabel
      · exact .inl h
      · exact .inr ⟨line, List.mem_cons_self, hlabel⟩
    · exact .inr ⟨line', List.mem_cons_of_mem line hline', hlabel⟩

/-- **Code is found behind a label on one of the lines.** -/
theorem exists_of_code? {labels read : List (List Char)} {code : String} (h : code? labels read = some code) :
    ∃ line ∈ read, ∃ label ∈ labels, labelled? label line = some code.toList := by
  obtain ⟨chars, hchars, rfl⟩ := Option.map_eq_some_iff.1 h
  rw [String.toList_ofList]
  exact (foldl_lookAt_eq_some hchars).resolve_left (by simp)

/-! ## Issues -/

structure IsCapturedCode (code : String) : Prop where
  noBreak : '\n' ∉ code.toList
  trimmed : isTrimmed code.toList

structure IsCaptured (i : Issue) : Prop where
  path : '\n' ∉ i.path.toList
  pathNoTick : '\x60' ∉ i.path.toList
  description : '\n' ∉ i.description.toList
  current : ∀ code ∈ i.current, IsCapturedCode code
  fix : ∀ code ∈ i.fix, IsCapturedCode code

theorem isCapturedCode {labels read : List (List Char)} (hread : ∀ line ∈ read, '\n' ∉ line) {code : String}
    (h : code? labels read = some code) : IsCapturedCode code := by
  obtain ⟨line, hline, label, -, hlabel⟩ := exists_of_code? h
  obtain ⟨piece, hpiece, hcode⟩ := labelled?_eq_some hlabel
  refine ⟨?_, ?_⟩
  · rw [hcode]
    exact fun hmem => hread line hline (hpiece ((trim_isInfix piece).subset hmem))
  · rw [hcode]
    exact isTrimmed_trim piece

theorem isCaptured_of_issueAt {changed : Json} {line : List Char} {below : List (List Char)} {i : Issue}
    (hline : '\n' ∉ line) (hbelow : ∀ l ∈ below, '\n' ∉ l) (h : issueAt? changed line below = .ok (some i)) :
    i.IsCaptured := by
  obtain ⟨header, _, hopening, -, -, -, -, hi⟩ := issueAt?_eq_some h
  obtain ⟨hsound, hquoted⟩ := sound_of_opening hopening
  have hheader : header? line = some header := by
    unfold opening? at hopening
    split at hopening
    · cases hopening
    · exact hopening
  have hwindow : ∀ l ∈ window below, '\n' ∉ l := fun l hl =>
    hbelow l (List.mem_of_mem_take ((List.takeWhile_prefix _).subset hl))
  rw [hi]
  refine ⟨?_, ?_, ?_, fun code hcode => isCapturedCode hwindow hcode, fun code hcode => isCapturedCode hwindow hcode⟩
  · rw [String.toList_ofList]
    exact fun hmem => hline (hquoted.subset (List.mem_cons_of_mem _ (List.mem_append_left _ hmem)))
  · rw [String.toList_ofList]
    exact hsound.pathNoTick
  · rw [String.toList_ofList]
    exact fun hmem => hline (header?_subset hheader hmem)

/-- **Every text of an issue that was read is a piece of one line.** -/
theorem isCaptured_of_parse {changed : Json} {text : String} {found : List Issue} (h : parse changed text = .ok found) :
    ∀ i ∈ found, i.IsCaptured := by
  intro i hi
  obtain ⟨line, below, hsuffix, hissue⟩ := mem_parse h hi
  have hbreak : ∀ l ∈ line :: below, '\n' ∉ l := by
    intro l hl
    obtain ⟨piece, hpiece, rfl⟩ := List.mem_map.1 (hsuffix.subset hl)
    exact fun hmem => not_mem_of_mem_splitOn '\n' _ piece hpiece ((trim_isInfix piece).subset hmem)
  rw [List.forall_mem_cons] at hbreak
  exact isCaptured_of_issueAt hbreak.1 hbreak.2 hissue

end Issue
end PullReview
