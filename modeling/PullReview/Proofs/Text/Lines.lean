import PullReview.Proofs.Text.Cut
import PullReview.Text.Lower
/-!
# Lines of texts put together

A text that is joined from parts has the lines of its parts, one after the other (`lines_joinLines_flatMap`), so what is
true of its lines can be said part by part.  Lower case leaves the line feeds where they are and no capital of ASCII
(`mem_of_mem_lowerFrom`), so a text in lower case adds no line of its own and none with a capital in it.
-/
namespace PullReview
namespace Text

theorem lines_of_not_mem {s : List Char} (h : '\n' ∉ s) : lines s = [s] := splitOn_of_not_mem '\n' s h

/-- A line feed at the end of a text makes an empty line. -/
theorem lines_append_break {s : List Char} (h : '\n' ∉ s) : lines (s ++ ['\n']) = [s, []] :=
  splitOn_append_cons '\n' [] s h

theorem lines_cons_break (s : List Char) : lines ('\n' :: s) = [] :: lines s :=
  splitOn_append_cons '\n' s [] List.not_mem_nil

/-- What is put before a text stands on its first line. -/
theorem lines_append {t first : List Char} {rest : List (List Char)} (ht : lines t = first :: rest) :
    ∀ {s : List Char}, '\n' ∉ s → lines (s ++ t) = (s ++ first) :: rest
  | [], _ => ht
  | c :: cs, h => by
    have hc : c ≠ '\n' := Ne.symm (List.ne_of_not_mem_cons h)
    have ih : splitOn '\n' (cs ++ t) = _ := lines_append ht (List.not_mem_of_not_mem_cons h)
    rw [List.cons_append, lines, splitOn, if_neg hc, ih]
    rfl

theorem subset_of_mem_lines {s line : List Char} (h : line ∈ lines s) : line ⊆ s :=
  (infix_of_mem_splitOn '\n' s line h).subset

/-- **Joined parts have the lines of the parts.** -/
theorem lines_joinLines_flatMap : ∀ {parts : List String}, parts ≠ [] →
    lines (joinLines parts).toList = parts.flatMap fun part => lines part.toList
  | [], h => absurd rfl h
  | [p], _ => by simp [joinLines, joinWith]
  | p :: q :: rest, _ => by
    have ih : lines (joinLines (q :: rest)).toList = _ := lines_joinLines_flatMap (List.cons_ne_nil q rest)
    have hjoined : (joinLines (p :: q :: rest)).toList = p.toList ++ '\n' :: (joinLines (q :: rest)).toList := by
      simp [joinLines, joinWith]
    rw [hjoined, lines, splitOn_append, List.flatMap_cons]
    exact congrArg (splitOn '\n' p.toList ++ ·) ih

/-! ## Lower case -/

theorem toNat_ofNat_of_pos {n : Nat} (h : 0 < (Char.ofNat n).toNat) : (Char.ofNat n).toNat = n := by
  by_cases hn : n.isValidChar
  · rw [Char.ofNat, dif_pos hn]
    rfl
  · rw [Char.ofNat, dif_neg hn] at h
    exact absurd h (by decide)

theorem target_of_mem_lowerRuns : ∀ r ∈ lowerRuns, 97 ≤ r.target := by decide +kernel

/-- A character below the small letters is left alone by lower case, and it is no capital. -/
theorem lowerChar_of_lt {c : Char} (hpos : 0 < (lowerChar c).toNat) (hlt : (lowerChar c).toNat < 97) :
    lowerChar c = c ∧ ¬ (65 ≤ c.toNat ∧ c.toNat ≤ 90) := by
  unfold lowerChar at hpos hlt ⊢
  dsimp only at hpos hlt ⊢
  split at hpos
  · split at hpos
    · rename_i hascii hcapital
      rw [if_pos hascii, if_pos hcapital, toNat_ofNat_of_pos hpos] at hlt
      simp only [Bool.and_eq_true, decide_eq_true_eq] at hcapital
      omega
    · rename_i hascii hcapital
      rw [if_pos hascii, if_neg hcapital]
      simpa using hcapital
  · rename_i hascii
    rw [if_neg hascii] at hlt ⊢
    split at hpos
    · exact ⟨rfl, by omega⟩
    · rename_i r hr
      rw [hr] at hlt
      have htarget := target_of_mem_lowerRuns r (List.mem_of_find?_eq_some hr)
      rw [toNat_ofNat_of_pos hpos] at hlt
      omega

/-- **Lower case adds nothing below the small letters, and leaves no capital of ASCII.** -/
theorem mem_of_mem_lowerFrom {d : Char} (hpos : 0 < d.toNat) (hlt : d.toNat < 97) : ∀ {before s : List Char},
    d ∈ lowerFrom before s → d ∈ s ∧ ¬ (65 ≤ d.toNat ∧ d.toNat ≤ 90)
  | _, [], h => by cases h
  | before, c :: rest, h => by
    rw [lowerFrom, List.mem_append] at h
    rcases h with hhere | hrest
    · by_cases hdotted : c.toNat = 0x130
      · rw [if_pos hdotted] at hhere
        simp only [List.mem_cons, List.not_mem_nil, or_false] at hhere
        rcases hhere with rfl | rfl <;> exact absurd hlt (by decide)
      · by_cases hsigma : c.toNat = 0x3A3
        · rw [if_neg hdotted, if_pos hsigma, List.mem_singleton] at hhere
          split at hhere <;> subst hhere <;> exact absurd hlt (by decide)
        · rw [if_neg hdotted, if_neg hsigma, List.mem_singleton] at hhere
          subst hhere
          obtain ⟨hsame, hcapital⟩ := lowerChar_of_lt hpos hlt
          rw [hsame]
          exact ⟨List.mem_cons_self, hcapital⟩
    · obtain ⟨hmem, hcapital⟩ := mem_of_mem_lowerFrom hpos hlt hrest
      exact ⟨List.mem_cons_of_mem c hmem, hcapital⟩

theorem break_not_mem_lower {s : String} (h : '\n' ∉ s.toList) : '\n' ∉ (lower s).toList := by
  rw [lower, String.toList_ofList]
  exact fun hmem => h (mem_of_mem_lowerFrom (by decide) (by decide) hmem).1

theorem capital_not_mem_lower {d : Char} (hlo : 65 ≤ d.toNat) (hhi : d.toNat ≤ 90) (s : String) :
    d ∉ (lower s).toList := by
  rw [lower, String.toList_ofList]
  exact fun hmem => (mem_of_mem_lowerFrom (by omega) (by omega) hmem).2 ⟨hlo, hhi⟩

end Text
end PullReview
