import Mathlib.Data.List.DropRight
import PullReview.Text.Blank
import PullReview.Text.Search
/-!
# Cutting and joining, undone by each other

What `splitOn`, `cutFirst` and `cutLast` make of a text put together from its pieces: a text splits at each of its
separators (`splitOn_append`), so one joined from pieces without the separator splits into these pieces
(`lines_joinLines`), and a cut falls at the one place where the piece before it (for the first cut) or behind it (for the
last) is free of the separator.  Trimming is said through the two ends of a text (`trim_eq_self_iff`) and takes nothing off
a piece that is trimmed itself (`infix_trim_iff`); searching is said through `<:+:` (`contains_iff`).
-/
namespace PullReview
namespace Text

/-! ## Splitting -/

theorem splitOn_of_not_mem (sep : Char) : ∀ s : List Char, sep ∉ s → splitOn sep s = [s]
  | [], _ => rfl
  | c :: cs, h => by
    have hc : c ≠ sep := Ne.symm (List.ne_of_not_mem_cons h)
    have hcs : sep ∉ cs := List.not_mem_of_not_mem_cons h
    rw [splitOn, if_neg hc, splitOn_of_not_mem sep cs hcs]

theorem splitOn_ne_nil (sep : Char) : ∀ s : List Char, splitOn sep s ≠ []
  | [] => by simp [splitOn]
  | c :: cs => by
    rw [splitOn]
    split
    · simp
    · split <;> simp

/-- **A text splits at any of its separators.** -/
theorem splitOn_append (sep : Char) (t : List Char) :
    ∀ s : List Char, splitOn sep (s ++ sep :: t) = splitOn sep s ++ splitOn sep t
  | [] => by simp [splitOn]
  | c :: cs => by
    rw [List.cons_append, splitOn, splitOn, splitOn_append sep t cs]
    by_cases hc : c = sep
    · rw [if_pos hc, if_pos hc, List.cons_append]
    · rw [if_neg hc, if_neg hc]
      cases hsplit : splitOn sep cs with
      | nil => exact absurd hsplit (splitOn_ne_nil sep cs)
      | cons piece pieces => rfl

theorem splitOn_append_cons (sep : Char) (t s : List Char) (h : sep ∉ s) :
    splitOn sep (s ++ sep :: t) = s :: splitOn sep t := by
  rw [splitOn_append, splitOn_of_not_mem sep s h, List.singleton_append]

theorem head?_splitOn (sep : Char) : ∀ s : List Char, (splitOn sep s).head? = some (s.takeWhile (· ≠ sep))
  | [] => rfl
  | c :: cs => by
    have ih := head?_splitOn sep cs
    rw [splitOn]
    by_cases hc : c = sep
    · simp [hc]
    · rw [if_neg hc]
      cases hsplit : splitOn sep cs with
      | nil => exact absurd hsplit (splitOn_ne_nil sep cs)
      | cons piece pieces =>
        rw [hsplit, List.head?_cons, Option.some.injEq] at ih
        simp [hc, ih]

theorem not_mem_of_mem_splitOn (sep : Char) : ∀ s : List Char, ∀ piece ∈ splitOn sep s, sep ∉ piece
  | [], piece, h => by
    rw [splitOn, List.mem_singleton] at h
    simp [h]
  | c :: cs, piece, h => by
    have ih := not_mem_of_mem_splitOn sep cs
    rw [splitOn] at h
    by_cases hc : c = sep
    · rw [if_pos hc] at h
      rcases List.mem_cons.1 h with rfl | h
      · exact List.not_mem_nil
      · exact ih piece h
    · rw [if_neg hc] at h
      cases hsplit : splitOn sep cs with
      | nil =>
        rw [hsplit] at h
        rw [List.mem_singleton.1 h]
        exact List.not_mem_cons_of_ne_of_not_mem (Ne.symm hc) List.not_mem_nil
      | cons first rest =>
        rw [hsplit] at h ih
        rcases List.mem_cons.1 h with rfl | h
        · exact List.not_mem_cons_of_ne_of_not_mem (Ne.symm hc) (ih first List.mem_cons_self)
        · exact ih piece (List.mem_cons_of_mem first h)

/-- Every piece stands in the whole. -/
theorem infix_of_mem_splitOn (sep : Char) : ∀ s : List Char, ∀ piece ∈ splitOn sep s, piece <:+: s
  | [], piece, h => by
    obtain rfl : piece = [] := List.mem_singleton.1 h
    exact List.nil_infix
  | c :: cs, piece, h => by
    have ih := infix_of_mem_splitOn sep cs
    have hhead := head?_splitOn sep cs
    rw [splitOn] at h
    by_cases hc : c = sep
    · rw [if_pos hc] at h
      rcases List.mem_cons.1 h with rfl | h
      · exact List.nil_infix
      · exact List.infix_cons (ih piece h)
    · rw [if_neg hc] at h
      cases hsplit : splitOn sep cs with
      | nil => exact absurd hsplit (splitOn_ne_nil sep cs)
      | cons first rest =>
        rw [hsplit] at h ih hhead
        rcases List.mem_cons.1 h with rfl | h
        · rw [List.head?_cons, Option.some.injEq] at hhead
          rw [hhead]
          exact (List.prefix_cons_inj c).2 (List.takeWhile_prefix _) |>.isInfix
        · exact List.infix_cons (ih piece (List.mem_cons_of_mem first h))

/-- **Joined pieces split into themselves**, when there is a piece and none holds the separator. -/
theorem splitOn_joinWith (sep : Char) : ∀ parts : List String, parts ≠ [] → (∀ p ∈ parts, sep ∉ p.toList) →
    splitOn sep (joinWith (String.singleton sep) parts).toList = parts.map String.toList
  | [], h, _ => absurd rfl h
  | [p], _, h => by
    rw [joinWith, splitOn_of_not_mem sep _ (h p List.mem_cons_self)]
    rfl
  | p :: q :: rest, _, h => by
    have hrest : ∀ x ∈ q :: rest, sep ∉ x.toList := fun x hx => h x (List.mem_cons_of_mem p hx)
    rw [joinWith, String.toList_append, String.toList_append, String.toList_singleton, List.append_assoc,
      List.singleton_append, splitOn_append_cons sep _ _ (h p List.mem_cons_self),
      splitOn_joinWith sep (q :: rest) (List.cons_ne_nil q rest) hrest]
    rfl

theorem lines_joinLines (parts : List String) (hne : parts ≠ []) (h : ∀ p ∈ parts, '\n' ∉ p.toList) :
    lines (joinLines parts).toList = parts.map String.toList := splitOn_joinWith '\n' parts hne h

/-- Every part stands in the whole. -/
theorem infix_joinWith (sep : String) : ∀ (parts : List String), ∀ p ∈ parts, p.toList <:+: (joinWith sep parts).toList
  | [q], p, h => by
    rw [List.mem_singleton.1 h]
    exact List.infix_rfl
  | q :: r :: rest, p, h => by
    rw [joinWith, String.toList_append, String.toList_append, List.append_assoc]
    rcases List.mem_cons.1 h with rfl | h
    · exact (List.prefix_append _ _).isInfix
    · have hrest := infix_joinWith sep (r :: rest) p h
      exact (hrest.trans (List.suffix_append _ _).isInfix).trans (List.suffix_append _ _).isInfix

/-- There is nothing in the whole but the parts and the separator. -/
theorem mem_joinWith {sep : String} {c : Char} : ∀ {parts : List String}, c ∈ (joinWith sep parts).toList →
    c ∈ sep.toList ∨ ∃ p ∈ parts, c ∈ p.toList
  | [], h => by simp [joinWith] at h
  | [p], h => Or.inr ⟨p, List.mem_singleton_self p, h⟩
  | p :: q :: rest, h => by
    rw [joinWith, String.toList_append, String.toList_append, List.mem_append, List.mem_append] at h
    rcases h with (h | h) | h
    · exact Or.inr ⟨p, List.mem_cons_self, h⟩
    · exact Or.inl h
    · rcases mem_joinWith h with h | ⟨x, hx, h⟩
      · exact Or.inl h
      · exact Or.inr ⟨x, List.mem_cons_of_mem p hx, h⟩

theorem joinWith_cons {sep p : String} : ∀ {rest : List String}, rest ≠ [] →
    joinWith sep (p :: rest) = p ++ sep ++ joinWith sep rest
  | [], h => absurd rfl h
  | _ :: _, _ => rfl

theorem joinWith_append {sep : String} {ys : List String} (hys : ys ≠ []) : ∀ {xs : List String}, xs ≠ [] →
    joinWith sep (xs ++ ys) = joinWith sep xs ++ sep ++ joinWith sep ys
  | [], h => absurd rfl h
  | [x], _ => joinWith_cons hys
  | x :: y :: rest, _ => by
    rw [List.cons_append, joinWith_cons (by simp), joinWith_append hys (List.cons_ne_nil y rest),
      joinWith_cons (List.cons_ne_nil y rest)]
    simp only [String.append_assoc]

/-- Both pieces are shorter than the whole. -/
theorem joinLines_append_ne {xs ys : List String} (hxs : xs ≠ []) (hys : ys ≠ []) :
    joinLines (xs ++ ys) ≠ joinLines xs ∧ joinLines (xs ++ ys) ≠ joinLines ys := by
  have hlength : (joinLines (xs ++ ys)).length = (joinLines xs).length + 1 + (joinLines ys).length := by
    rw [joinLines, joinWith_append hys hxs, String.length_append, String.length_append]
    rfl
  constructor
  · intro h
    rw [h] at hlength
    omega
  · intro h
    rw [h] at hlength
    omega

/-- What stands between given parts can be told from the whole. -/
theorem eq_of_joinWith_eq {sep p q : String} {after : List String} : ∀ {before : List String},
    joinWith sep (before ++ p :: after) = joinWith sep (before ++ q :: after) → p = q
  | [], h => by
    cases after with
    | nil => exact h
    | cons a rest =>
      rw [List.nil_append, List.nil_append, joinWith, joinWith, String.append_left_inj, String.append_left_inj] at h
      exact h
  | b :: before, h => by
    rw [List.cons_append, List.cons_append, joinWith_cons (by simp), joinWith_cons (by simp),
      String.append_right_inj] at h
    exact eq_of_joinWith_eq h

/-! ## Cutting in two -/

/-- **The first cut falls at the only separator with none before it.** -/
theorem cutFirst_eq_some_iff (sep : Char) : ∀ s a b : List Char,
    cutFirst sep s = some (a, b) ↔ s = a ++ sep :: b ∧ sep ∉ a
  | [], a, b => by simp [cutFirst]
  | c :: cs, a, b => by
    rw [cutFirst]
    by_cases hc : c = sep
    · rw [if_pos hc]
      cases a with
      | nil => simp [hc]
      | cons d a => simp [hc]; intro hd; simp [hd]
    · rw [if_neg hc, Option.map_eq_some_iff]
      constructor
      · rintro ⟨⟨a', b'⟩, hcut, heq⟩
        obtain ⟨rfl, rfl⟩ := Prod.mk.inj heq
        obtain ⟨rfl, ha⟩ := (cutFirst_eq_some_iff sep cs a' b').1 hcut
        exact ⟨rfl, List.not_mem_cons_of_ne_of_not_mem (Ne.symm hc) ha⟩
      · rintro ⟨hs, ha⟩
        cases a with
        | nil => exact absurd (List.cons.inj hs).1 hc
        | cons d a =>
          obtain ⟨rfl, rfl⟩ := List.cons.inj hs
          exact ⟨(a, b), (cutFirst_eq_some_iff sep _ a b).2 ⟨rfl, List.not_mem_of_not_mem_cons ha⟩, rfl⟩

theorem cut_unique {sep : Char} {a b a' b' : List Char} (h : a ++ sep :: b = a' ++ sep :: b') (ha : sep ∉ a)
    (ha' : sep ∉ a') : a = a' ∧ b = b' := by
  have hcut := (cutFirst_eq_some_iff sep _ a b).2 ⟨rfl, ha⟩
  rw [h, (cutFirst_eq_some_iff sep _ a' b').2 ⟨rfl, ha'⟩] at hcut
  exact ⟨(Prod.mk.inj (Option.some.inj hcut)).1.symm, (Prod.mk.inj (Option.some.inj hcut)).2.symm⟩

theorem cutLast_eq_none_iff (sep : Char) : ∀ s : List Char, cutLast sep s = none ↔ sep ∉ s
  | [] => by simp [cutLast]
  | c :: cs => by
    rw [cutLast]
    have ih := cutLast_eq_none_iff sep cs
    cases hcut : cutLast sep cs with
    | none =>
      have hcs := ih.1 hcut
      by_cases hc : c = sep
      · simp [hc]
      · simp [hc, hcs, Ne.symm hc]
    | some ab =>
      have hcs : sep ∈ cs := Decidable.not_not.1 (fun h => by rw [ih.2 h] at hcut; cases hcut)
      simp [hcs]

/-- **The last cut falls at the only separator with none behind it.** -/
theorem cutLast_eq_some_iff (sep : Char) : ∀ s a b : List Char,
    cutLast sep s = some (a, b) ↔ s = a ++ sep :: b ∧ sep ∉ b
  | [], a, b => by simp [cutLast]
  | c :: cs, a, b => by
    rw [cutLast]
    cases hcut : cutLast sep cs with
    | none =>
      have hcs := (cutLast_eq_none_iff sep cs).1 hcut
      cases a with
      | nil =>
        by_cases hc : c = sep
        · simp only [hc, if_true, List.nil_append, Option.some.injEq, Prod.mk.injEq, List.cons.injEq, true_and]
          exact ⟨fun h => ⟨h, h ▸ hcs⟩, fun h => h.1⟩
        · simp [hc]
      | cons d a =>
        have hne : cs ≠ a ++ sep :: b := fun h => hcs (by simp [h])
        by_cases hc : c = sep <;> simp [hc, hne]
    | some xy =>
      obtain ⟨x, y⟩ := xy
      obtain ⟨hxy, hy⟩ := (cutLast_eq_some_iff sep cs x y).1 hcut
      simp only [Option.some.injEq, Prod.mk.injEq]
      constructor
      · rintro ⟨rfl, rfl⟩
        exact ⟨by rw [hxy]; rfl, hy⟩
      · rintro ⟨hs, hb⟩
        cases a with
        | nil =>
          have hcs : cs = b := (List.cons.inj hs).2
          exact absurd (by rw [← hcs, hxy]; simp) hb
        | cons d a =>
          obtain ⟨rfl, htail⟩ := List.cons.inj hs
          have := (cutLast_eq_some_iff sep cs a b).2 ⟨htail, hb⟩
          rw [hcut] at this
          obtain ⟨rfl, rfl⟩ := Prod.mk.inj (Option.some.inj this)
          exact ⟨rfl, rfl⟩

/-! ## Searching -/

theorem contains_iff (needle : List Char) : ∀ s : List Char, contains needle s = true ↔ needle <:+: s
  | [] => by simp [contains]
  | c :: cs => by
    rw [contains, Bool.or_eq_true, contains_iff needle cs, List.infix_cons_iff, List.isPrefixOf_iff_prefix]

theorem after?_eq_some_iff (pre s t : List Char) : after? pre s = some t ↔ s = pre ++ t := by
  rw [after?]
  by_cases h : pre.isPrefixOf s
  · obtain ⟨u, rfl⟩ := List.isPrefixOf_iff_prefix.1 h
    rw [if_pos h, List.drop_left, Option.some.injEq, List.append_cancel_left_eq]
  · rw [if_neg h]
    constructor
    · intro h'
      cases h'
    · intro hs
      exact absurd (List.isPrefixOf_iff_prefix.2 (hs ▸ List.prefix_append pre t)) h

/-! ## Trimming -/

/-- No white space at the beginning and none at the end. -/
def isTrimmed (s : List Char) : Prop := (∀ c ∈ s.head?, isBlank c = false) ∧ ∀ c ∈ s.getLast?, isBlank c = false

theorem trimStart_eq_self_iff (s : List Char) : trimStart s = s ↔ ∀ c ∈ s.head?, isBlank c = false := by
  cases s with
  | nil => simp [trimStart]
  | cons c cs =>
    by_cases hc : isBlank c = true
    · have hlen : (cs.dropWhile isBlank).length ≤ cs.length := (List.dropWhile_suffix isBlank).length_le
      simp only [trimStart, List.dropWhile_cons, hc, if_true, List.head?_cons, Option.mem_def, Option.some.injEq,
        forall_eq', Bool.true_eq_false, iff_false]
      exact fun h => by rw [h, List.length_cons] at hlen; omega
    · simp [trimStart, hc]

theorem trimEnd_eq_self_iff (s : List Char) : trimEnd s = s ↔ ∀ c ∈ s.getLast?, isBlank c = false := by
  have h := trimStart_eq_self_iff s.reverse
  rw [List.head?_reverse] at h
  rw [← h, trimEnd, List.reverse_eq_iff]
  rfl

/-- **A text is its own trimmed form exactly when no white space stands at its ends.** -/
theorem trim_eq_self_iff (s : List Char) : trim s = s ↔ isTrimmed s := by
  rw [isTrimmed, ← trimStart_eq_self_iff, ← trimEnd_eq_self_iff, trim]
  constructor
  · intro h
    have hstart : (trimStart s).length ≤ s.length := (List.dropWhile_suffix isBlank).length_le
    have hend : (trimEnd (trimStart s)).length ≤ (trimStart s).length := by
      simpa [trimEnd] using (List.dropWhile_suffix isBlank (l := (trimStart s).reverse)).length_le
    have hlen : (trimStart s).length = s.length := by rw [h] at hend; exact hstart.antisymm hend
    have hs : trimStart s = s := (List.dropWhile_suffix isBlank).eq_of_length hlen
    exact ⟨hs, by rw [hs] at h; exact h⟩
  · rintro ⟨hstart, hend⟩
    rw [hstart, hend]

theorem head?_trimStart (s : List Char) : ∀ c ∈ (trimStart s).head?, isBlank c = false := by
  intro c hc
  have h := List.head?_dropWhile_not isBlank s
  rw [show (s.dropWhile isBlank).head? = some c from hc] at h
  exact h

theorem trim_isPrefix (s : List Char) : trim s <+: trimStart s := by
  rw [trim, trimEnd, ← List.reverse_suffix, List.reverse_reverse]
  exact List.dropWhile_suffix isBlank

/-- **Trimming leaves no white space at either end.** -/
theorem isTrimmed_trim (s : List Char) : isTrimmed (trim s) := by
  constructor
  · intro c hc
    obtain ⟨rest, hrest⟩ := trim_isPrefix s
    refine head?_trimStart s c ?_
    rw [← hrest, List.head?_append, Option.mem_def.1 hc]
    rfl
  · intro c hc
    refine head?_trimStart (trimStart s).reverse c ?_
    rw [← List.getLast?_reverse]
    exact hc

theorem trimStart_eq_cons_iff {c : Char} (hc : isBlank c = false) (s t : List Char) :
    trimStart s = c :: t ↔ ∃ blanks, s = blanks ++ c :: t ∧ blanks.all isBlank = true := by
  constructor
  · intro h
    refine ⟨s.takeWhile isBlank, ?_, List.all_takeWhile⟩
    rw [← h, trimStart, List.takeWhile_append_dropWhile]
  · rintro ⟨blanks, rfl, hb⟩
    rw [trimStart, List.dropWhile_append_of_pos (List.all_eq_true.1 hb), List.dropWhile_cons_of_neg (by simp [hc])]

theorem trim_isInfix (s : List Char) : trim s <:+: s :=
  (trim_isPrefix s).isInfix.trans (List.dropWhile_suffix isBlank).isInfix

theorem infix_trimStart {w s : List Char} (hw : ∃ c ∈ w.head?, isBlank c = false) (h : w <:+: s) : w <:+: trimStart s := by
  obtain ⟨c, hc, hblank⟩ := hw
  obtain ⟨w, rfl⟩ : ∃ rest, w = c :: rest := ⟨w.tail, (List.cons_head?_tail hc).symm⟩
  obtain ⟨pre, post, rfl⟩ := h
  rw [List.append_assoc, List.cons_append, trimStart, List.dropWhile_append]
  split
  · rw [List.dropWhile_cons_of_neg (by simp [hblank])]
    exact (List.prefix_append (c :: w) post).isInfix
  · exact ⟨pre.dropWhile isBlank, post, by simp⟩

theorem infix_trimEnd {w s : List Char} (hw : ∃ c ∈ w.getLast?, isBlank c = false) (h : w <:+: s) : w <:+: trimEnd s := by
  rw [← List.head?_reverse] at hw
  rw [trimEnd, ← List.reverse_infix, List.reverse_reverse]
  exact infix_trimStart hw (List.reverse_infix.2 h)

/-- **What has no white space at its ends is left whole by trimming.** -/
theorem infix_trim_iff {w : List Char} (hhead : ∃ c ∈ w.head?, isBlank c = false)
    (hlast : ∃ c ∈ w.getLast?, isBlank c = false) (s : List Char) : w <:+: trim s ↔ w <:+: s :=
  ⟨fun h => h.trans (trim_isInfix s), fun h => infix_trimEnd hlast (infix_trimStart hhead h)⟩

theorem trim_append_of_blank (pre s : List Char) (h : ∀ c ∈ pre, isBlank c = true) : trim (pre ++ s) = trim s := by
  rw [trim, trim, trimStart, trimStart, List.dropWhile_append_of_pos h]

/-! ## Slices -/

theorem slice_whole {s : String} {n : Nat} (h : s.length ≤ n) : slice 0 n s = s := by
  have htake : s.toList.take n = s.toList := List.take_of_length_le (by rwa [String.length_toList])
  have hstop : placeOf s.length (n : Int) = n := by simp [placeOf]
  rw [slice, hstop, htake, placeOf, if_pos (Int.le_refl 0)]
  simp

/-- **A piece of a text is what stands between the two places where it starts and ends.** -/
theorem slice_middle (before piece after : List Char) :
    slice before.length (before.length + piece.length) (String.ofList (before ++ piece ++ after)) = String.ofList piece := by
  have hplace (length n : Nat) : placeOf length (n : Int) = n := by simp [placeOf]
  rw [slice, ← Int.natCast_add, hplace, hplace, String.toList_ofList, ← List.length_append, List.take_left, List.drop_left]

end Text
end PullReview
