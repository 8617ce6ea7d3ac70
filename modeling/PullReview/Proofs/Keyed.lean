import Mathlib.Data.List.Basic
import PullReview.Keyed
/-!
# Each item once

`distinct` keeps every item and none twice (`mem_distinct_iff`, `nodup_distinct`), in the order in which they first occur
(`pairwise_distinct`); where none is there twice, it changes nothing (`distinct_of_nodup`).  It makes no difference whether
items are sorted out before or after it (`distinct_filter`).  One more item at the end counts only when it is new
(`distinct_concat`), so a list that is filled item by item, old ones left where they are, holds the distinct items.
Grouping by a key keeps every item too and adds none (`mem_groupBy_iff`), and it may be done under other keys as long as
these tell the same items apart (`groupBy_map`).

An item that is put into a list takes the place of the one with its key and leaves all others (`find?_putBy`); the keys
stay in the order in which they came (`map_key_putBy`).
-/
namespace PullReview

section Distinct

variable {α : Type} [DecidableEq α]

theorem mem_distinct_iff {a : α} : ∀ {xs : List α}, a ∈ distinct xs ↔ a ∈ xs
  | [] => Iff.rfl
  | x :: rest => by
    have ih : a ∈ distinct rest ↔ a ∈ rest := mem_distinct_iff
    rw [distinct, List.mem_cons, List.mem_filter, ih, List.mem_cons, decide_eq_true_eq]
    constructor
    · rintro (h | h)
      · exact .inl h
      · exact .inr h.1
    · rintro (h | h)
      · exact .inl h
      · by_cases hax : a = x
        · exact .inl hax
        · exact .inr ⟨h, hax⟩

theorem nodup_distinct : ∀ xs : List α, (distinct xs).Nodup
  | [] => List.nodup_nil
  | x :: rest => by
    rw [distinct, List.nodup_cons]
    exact ⟨fun h => by simp at h, (nodup_distinct rest).filter _⟩

theorem distinct_of_nodup : ∀ {xs : List α}, xs.Nodup → distinct xs = xs
  | [], _ => rfl
  | x :: rest, h => by
    rw [List.nodup_cons] at h
    rw [distinct, distinct_of_nodup h.2]
    congr 1
    exact List.filter_eq_self.2 fun a ha => decide_eq_true fun heq => h.1 (heq ▸ ha)

/-- **The distinct items stand in the order in which they first occur.** -/
theorem pairwise_distinct : ∀ xs : List α, (distinct xs).Pairwise fun a b => xs.idxOf a < xs.idxOf b
  | [] => List.Pairwise.nil
  | x :: rest => by
    have ih := (pairwise_distinct rest).filter (· ≠ x)
    have hne : ∀ {a : α}, a ∈ (distinct rest).filter (· ≠ x) → x ≠ a := fun ha heq => by simp [heq] at ha
    rw [distinct, List.pairwise_cons]
    refine ⟨fun a ha => ?_, ih.imp_of_mem fun ha hb hab => ?_⟩
    · rw [List.idxOf_cons_self, List.idxOf_cons_ne _ (hne ha)]
      omega
    · rw [List.idxOf_cons_ne _ (hne ha), List.idxOf_cons_ne _ (hne hb)]
      omega

theorem distinct_filter (p : α → Bool) : ∀ xs : List α, distinct (xs.filter p) = (distinct xs).filter p
  | [] => rfl
  | x :: rest => by
    have ih := distinct_filter p rest
    by_cases hx : p x = true
    · rw [List.filter_cons_of_pos hx, distinct, ih, distinct, List.filter_cons_of_pos hx, List.filter_filter,
        List.filter_filter]
      congr 1
      exact List.filter_congr fun a _ => Bool.and_comm _ _
    · rw [List.filter_cons_of_neg hx, ih, distinct, List.filter_cons_of_neg hx, List.filter_filter]
      refine List.filter_congr fun a _ => ?_
      -- what passes is not the item left out
      by_cases hax : a = x
      · simp [hax, hx]
      · simp [hax]

/-- **One more item at the end counts when it is new.** -/
theorem distinct_concat (a : α) : ∀ xs : List α,
    distinct (xs ++ [a]) = if a ∈ xs then distinct xs else distinct xs ++ [a]
  | [] => rfl
  | x :: rest => by
    rw [List.cons_append, distinct, distinct_concat a rest, distinct]
    by_cases hrest : a ∈ rest
    · rw [if_pos hrest, if_pos (List.mem_cons_of_mem x hrest)]
    · rw [if_neg hrest, List.filter_append]
      by_cases hax : a = x
      · rw [if_pos (by simp [hax])]
        simp [hax]
      · rw [if_neg (by simp [hax, hrest])]
        simp [hax]

theorem distinct_map {β : Type} [DecidableEq β] {f : α → β} : ∀ {xs : List α},
    (∀ a ∈ xs, ∀ b ∈ xs, f a = f b → a = b) → distinct (xs.map f) = (distinct xs).map f
  | [], _ => rfl
  | x :: rest, hf => by
    have ih : distinct (rest.map f) = (distinct rest).map f := distinct_map fun a ha b hb =>
      hf a (List.mem_cons_of_mem x ha) b (List.mem_cons_of_mem x hb)
    rw [List.map_cons, distinct, ih, distinct, List.map_cons, List.filter_map]
    congr 2
    refine List.filter_congr fun a ha => ?_
    have hmem : a ∈ x :: rest := List.mem_cons_of_mem x (mem_distinct_iff.1 ha)
    simp only [Function.comp_apply, decide_eq_decide]
    exact not_congr ⟨hf a hmem x List.mem_cons_self, congrArg f⟩

end Distinct

section Groups

variable {α κ : Type} [DecidableEq κ] {key : α → κ}

theorem mem_groupBy {a : α} {xs : List α} (h : a ∈ xs) : ∃ group, (key a, group) ∈ groupBy key xs ∧ a ∈ group :=
  ⟨_, List.mem_map_of_mem (mem_distinct_iff.2 (List.mem_map_of_mem h)), List.mem_filter.2 ⟨h, decide_eq_true rfl⟩⟩

theorem eq_of_mem_groupBy {xs group : List α} {k : κ} (h : (k, group) ∈ groupBy key xs) :
    (∃ a ∈ xs, key a = k) ∧ group = xs.filter fun a => key a = k := by
  obtain ⟨k', hk', hgroup⟩ := List.mem_map.1 h
  obtain ⟨rfl, rfl⟩ := Prod.mk.inj hgroup
  exact ⟨List.mem_map.1 (mem_distinct_iff.1 hk'), rfl⟩

theorem mem_groupBy_iff {a : α} {xs : List α} : (∃ g ∈ groupBy key xs, a ∈ g.2) ↔ a ∈ xs := by
  constructor
  · rintro ⟨⟨k, group⟩, hg, ha⟩
    obtain ⟨-, rfl⟩ := eq_of_mem_groupBy hg
    exact List.mem_of_mem_filter ha
  · intro ha
    obtain ⟨group, hgroup, hmem⟩ : ∃ group, (key a, group) ∈ groupBy key xs ∧ a ∈ group := mem_groupBy ha
    exact ⟨(key a, group), hgroup, hmem⟩

/-- **Items may change, and their keys with them**, as long as no two keys become one. -/
theorem groupBy_map (f : α → α) (rekey : κ → κ) {xs : List α} (hf : ∀ a ∈ xs, key (f a) = rekey (key a))
    (hinj : ∀ a ∈ xs, ∀ b ∈ xs, rekey (key a) = rekey (key b) → key a = key b) :
    groupBy key (xs.map f) = (groupBy key xs).map fun g => (rekey g.1, g.2.map f) := by
  have hkeys : (xs.map f).map key = (xs.map key).map rekey := by
    rw [List.map_map, List.map_map]
    exact List.map_congr_left hf
  have hdistinct : distinct ((xs.map key).map rekey) = (distinct (xs.map key)).map rekey := by
    refine distinct_map fun k hk l hl => ?_
    obtain ⟨a, ha, rfl⟩ := List.mem_map.1 hk
    obtain ⟨b, hb, rfl⟩ := List.mem_map.1 hl
    exact hinj a ha b hb
  unfold groupBy
  rw [hkeys, hdistinct, List.map_map, List.map_map]
  refine List.map_congr_left fun k hk => ?_
  obtain ⟨b, hb, rfl⟩ := List.mem_map.1 (mem_distinct_iff.1 hk)
  simp only [Function.comp_apply, List.filter_map, Prod.mk.injEq, true_and]
  congr 1
  refine List.filter_congr fun a ha => ?_
  simp only [Function.comp_apply, hf a ha, decide_eq_decide]
  exact ⟨hinj a ha b hb, congrArg rekey⟩

end Groups

/-! ## Putting an item -/

section Put

variable {α κ : Type} [DecidableEq κ] {key : α → κ} {a : α}

theorem putBy_of_not_mem : ∀ {xs : List α}, key a ∉ xs.map key → putBy key a xs = xs ++ [a]
  | [], _ => rfl
  | x :: rest, h => by
    rw [List.map_cons, List.mem_cons, not_or] at h
    rw [putBy, if_neg (Ne.symm h.1), putBy_of_not_mem h.2, List.cons_append]

/-- An item that is there already changes nothing. -/
theorem putBy_of_mem : ∀ {xs : List α}, (∀ x ∈ xs, key x = key a → x = a) → key a ∈ xs.map key → putBy key a xs = xs
  | x :: rest, h, hmem => by
    rw [putBy]
    by_cases hx : key x = key a
    · rw [if_pos hx, h x List.mem_cons_self hx]
    · have hrest : key a ∈ rest.map key := (List.mem_cons.1 hmem).resolve_left (Ne.symm hx)
      rw [if_neg hx, putBy_of_mem (fun y hy => h y (List.mem_cons_of_mem x hy)) hrest]

theorem mem_putBy {b : α} : ∀ {xs : List α}, b ∈ putBy key a xs → b = a ∨ b ∈ xs
  | [], h => .inl (List.mem_singleton.1 h)
  | x :: rest, h => by
    rw [putBy] at h
    split at h
    · exact (List.mem_cons.1 h).imp id (List.mem_cons_of_mem x)
    · rcases List.mem_cons.1 h with rfl | h
      · exact .inr List.mem_cons_self
      · exact (mem_putBy h).imp id (List.mem_cons_of_mem x)

theorem self_mem_putBy : ∀ xs : List α, a ∈ putBy key a xs
  | [] => List.mem_singleton.2 rfl
  | x :: rest => by
    rw [putBy]
    split
    · exact List.mem_cons_self
    · exact List.mem_cons_of_mem x (self_mem_putBy rest)

/-- **The keys stay where they are**, and a new one comes last. -/
theorem map_key_putBy : ∀ xs : List α,
    (putBy key a xs).map key = if key a ∈ xs.map key then xs.map key else xs.map key ++ [key a]
  | [] => rfl
  | x :: rest => by
    rw [putBy]
    by_cases hx : key x = key a
    · rw [if_pos hx, if_pos (by simp [hx]), List.map_cons, List.map_cons, hx]
    · rw [if_neg hx, List.map_cons, map_key_putBy rest, List.map_cons]
      by_cases hrest : key a ∈ rest.map key
      · rw [if_pos hrest, if_pos (List.mem_cons_of_mem _ hrest)]
      · rw [if_neg hrest, if_neg (by simp [Ne.symm hx, hrest]), List.cons_append]

theorem mem_map_key_putBy {k : κ} (xs : List α) : k ∈ (putBy key a xs).map key ↔ k = key a ∨ k ∈ xs.map key := by
  rw [map_key_putBy]
  split_ifs with h
  · exact ⟨.inr, fun hk => hk.elim (fun he => he ▸ h) id⟩
  · rw [List.mem_append, List.mem_singleton, or_comm]

theorem find?_putBy (k : κ) : ∀ xs : List α,
    (putBy key a xs).find? (fun x => key x = k) = if k = key a then some a else xs.find? fun x => key x = k
  | [] => by by_cases h : k = key a <;> simp [putBy, h, eq_comm]
  | x :: rest => by
    have ih := find?_putBy k rest
    rw [putBy]
    by_cases hx : key x = key a
    · by_cases h : k = key a
      · simp [hx, h]
      · simp [hx, h, Ne.symm h]
    · by_cases h : key x = k
      · simp [h, show k ≠ key a from h ▸ hx]
      · simp [hx, h, ih]

/-- Items may be written otherwise, under keys that tell the same ones apart. -/
theorem map_putBy {β μ : Type} [DecidableEq μ] {key' : β → μ} {f : α → β} : ∀ {xs : List α},
    (∀ x ∈ xs, key' (f x) = key' (f a) ↔ key x = key a) → (putBy key a xs).map f = putBy key' (f a) (xs.map f)
  | [], _ => rfl
  | x :: rest, h => by
    have hx := h x List.mem_cons_self
    rw [putBy, List.map_cons, putBy]
    by_cases hkey : key x = key a
    · rw [if_pos hkey, if_pos (hx.2 hkey), List.map_cons]
    · rw [if_neg hkey, if_neg (mt hx.1 hkey), List.map_cons, map_putBy fun y hy => h y (List.mem_cons_of_mem x hy)]

end Put

end PullReview
