import Mathlib.Data.List.Pairwise
import Mathlib.Tactic.MkIffOfInductiveProp
import PullReview.Proofs.Tree.Preorder
import PullReview.Tree.Definition
/-!
# Definitions in source order

A parser lays a tree out row by row: a node lies within its parent, and it starts no earlier than its previous sibling
ends (`IsLaidOut`).  Whatever comes later in preorder then lies within what came before or starts where that ends or
later (`pairwise_preorder`), so the lines of the nodes follow the source (`followSource_preorder`).  Functions and classes
are recorded with the lines of their nodes, and the nodes that define none are left out, which changes nothing about the
others; a function and a class lie to each other as any two nodes do (`records_follow_source`).
-/
namespace PullReview

/-- The lines from the first to the last one, both among them. -/
structure LineRange where
  first : Int
  last : Int
deriving DecidableEq, Repr

namespace LineRange

instance : Membership Int LineRange := ⟨fun r i => r.first ≤ i ∧ i ≤ r.last⟩

theorem mem_iff {r : LineRange} {i : Int} : i ∈ r ↔ r.first ≤ i ∧ i ≤ r.last := Iff.rfl

/-- One range lies within the other, or at most one line is in both. -/
def IsLaminar (r s : LineRange) : Prop :=
  (∀ i ∈ r, i ∈ s) ∨ (∀ i ∈ s, i ∈ r) ∨ ∀ i j, i ∈ r → i ∈ s → j ∈ r → j ∈ s → i = j

instance : Std.Symm IsLaminar where
  symm r s h := by
    rcases h with hwithin | hwithin | hapart
    · exact .inr (.inl hwithin)
    · exact .inl hwithin
    · exact .inr (.inr fun i j hi hi' hj hj' => hapart i j hi' hi hj' hj)

theorem IsLaminar.refl (r : LineRange) : r.IsLaminar r := .inl fun _ hi => hi

/-- The second range lies within the first or starts where the first ends or later. -/
def Precedes (r s : LineRange) : Prop := (r.first ≤ s.first ∧ s.last ≤ r.last) ∨ r.last ≤ s.first

theorem Precedes.first_le {r s : LineRange} (h : r.Precedes s) (hr : r.first ≤ r.last) : r.first ≤ s.first := by
  rcases h with ⟨hfirst, -⟩ | hafter
  · exact hfirst
  · exact Int.le_trans hr hafter

theorem Precedes.isLaminar {r s : LineRange} (h : r.Precedes s) : r.IsLaminar s := by
  simp only [IsLaminar, mem_iff]
  rcases h with ⟨hfirst, hlast⟩ | hafter
  · exact .inr (.inl fun i hi => ⟨Int.le_trans hfirst hi.1, Int.le_trans hi.2 hlast⟩)
  · -- a line in both is the last of one and the first of the other
    refine .inr (.inr fun i j hi hi' hj hj' => ?_)
    omega

end LineRange

/-- Ranges that follow the source: none starts before the one in front of it, none ends before it starts, and any two are
nested or have at most one line in common. -/
structure FollowSource (ranges : List LineRange) : Prop where
  starts : ranges.Pairwise fun r s => r.first ≤ s.first
  forward : ∀ r ∈ ranges, r.first ≤ r.last
  laminar : ranges.Pairwise LineRange.IsLaminar

theorem FollowSource.sublist {ranges part : List LineRange} (h : FollowSource ranges) (hsub : part.Sublist ranges) :
    FollowSource part where
  starts := h.starts.sublist hsub
  forward r hr := h.forward r (hsub.subset hr)
  laminar := h.laminar.sublist hsub

/-- Any two of them, whichever stands in front. -/
theorem FollowSource.isLaminar {ranges : List LineRange} (h : FollowSource ranges) {r s : LineRange} (hr : r ∈ ranges)
    (hs : s ∈ ranges) : r.IsLaminar s :=
  h.laminar.forall_of_forall (fun r _ => .refl r) hr hs

theorem followSource_of_precedes {ranges : List LineRange} (h : ranges.Pairwise LineRange.Precedes)
    (hforward : ∀ r ∈ ranges, r.first ≤ r.last) : FollowSource ranges where
  starts := h.imp_of_mem fun hr _ hprecedes => hprecedes.first_le (hforward _ hr)
  forward := hforward
  laminar := h.imp LineRange.Precedes.isLaminar

namespace Node

/-! ## Layout -/

/-- The rows of a node and its children, as a parser lays them out. -/
@[mk_iff]
structure IsLaidOut (n : Node) : Prop where
  forward : n.row ≤ n.endRow
  within : ∀ c ∈ n.children, n.row ≤ c.row ∧ c.endRow ≤ n.endRow
  successive : n.children.IsChain fun c d => c.endRow ≤ d.row

instance (n : Node) : Decidable n.IsLaidOut := decidable_of_iff' _ (isLaidOut_iff n)

/-- Every node of the tree is laid out so. -/
def IsOrderly (root : Node) : Prop := ∀ n ∈ root.preorder, n.IsLaidOut

instance (root : Node) : Decidable root.IsOrderly := inferInstanceAs (Decidable (∀ n ∈ root.preorder, n.IsLaidOut))

theorem IsOrderly.isLaidOut {n : Node} (h : n.IsOrderly) : n.IsLaidOut := h n n.self_mem_preorder

theorem IsOrderly.child {n c : Node} (h : n.IsOrderly) (hc : c ∈ n.children) : c.IsOrderly :=
  fun m hm => h m (preorder_subset hc hm)

/-- **Children stand one after the other**, also those with others between them, since none ends before it starts. -/
theorem IsOrderly.pairwise_children {n : Node} (h : n.IsOrderly) : n.children.Pairwise fun c d => c.endRow ≤ d.row := by
  have hforward : ∀ c ∈ n.children, c.row ≤ c.endRow := fun c hc => (h.child hc).isLaidOut.forward
  have hchain := h.isLaidOut.successive
  generalize n.children = children at hforward hchain
  induction hchain with
  | nil => exact .nil
  | singleton c => exact List.pairwise_singleton _ c
  | @cons_cons c d rest hcd _ ih =>
    have hrest := ih fun e he => hforward e (List.mem_cons_of_mem c he)
    refine List.pairwise_cons.2 ⟨fun e he => ?_, hrest⟩
    rcases List.mem_cons.1 he with rfl | he
    · exact hcd
    · have hd := hforward d (List.mem_cons_of_mem c List.mem_cons_self)
      exact Int.le_trans (Int.le_trans hcd hd) ((List.pairwise_cons.1 hrest).1 e he)

/-! ## The lines of the nodes -/

def lines (n : Node) : LineRange := ⟨n.startLine, n.endLine⟩

theorem IsOrderly.within {n : Node} (h : n.IsOrderly) : ∀ m ∈ n.preorder, n.row ≤ m.row ∧ m.endRow ≤ n.endRow := by
  induction n using ofChildren with
  | step n ih =>
    intro m hm
    rcases mem_preorder_iff.1 hm with rfl | ⟨c, hc, hm⟩
    · exact ⟨Int.le_refl _, Int.le_refl _⟩
    · obtain ⟨hrow, hend⟩ := h.isLaidOut.within c hc
      obtain ⟨hrow', hend'⟩ := ih c hc (h.child hc) m hm
      exact ⟨Int.le_trans hrow hrow', Int.le_trans hend' hend⟩

/-- **What comes later in preorder lies within what came before or starts where that ends or later.** -/
theorem IsOrderly.pairwise_preorder {n : Node} (h : n.IsOrderly) :
    n.preorder.Pairwise fun x y => x.lines.Precedes y.lines := by
  induction n using ofChildren with
  | step n ih =>
    have hbelow : ∀ m ∈ n.children.flatMap preorder, n.lines.Precedes m.lines := by
      intro m hm
      obtain ⟨c, hc, hm⟩ := List.mem_flatMap.1 hm
      obtain ⟨hrow, hend⟩ := h.within m (preorder_subset hc hm)
      exact .inl ⟨Int.add_le_add_right hrow 1, Int.add_le_add_right hend 1⟩
    rw [preorder_eq, List.pairwise_cons, List.pairwise_flatMap]
    refine ⟨hbelow, fun c hc => ih c hc (h.child hc), h.pairwise_children.imp_of_mem ?_⟩
    -- what stands below a child ends by the end of it, and what stands below a later one starts there or later
    intro c d hc hd hcd x hx y hy
    have hx := (h.child hc).within x hx
    have hy := (h.child hd).within y hy
    exact .inr (Int.add_le_add_right (Int.le_trans (Int.le_trans hx.2 hcd) hy.1) 1)

theorem followSource_preorder {root : Node} (h : root.IsOrderly) : FollowSource (root.preorder.map lines) := by
  refine followSource_of_precedes (List.pairwise_map.2 h.pairwise_preorder) fun r hr => ?_
  obtain ⟨n, hn, rfl⟩ := List.mem_map.1 hr
  exact Int.add_le_add_right (h n hn).forward 1

/-! ## The lines of the records -/

/-- Records that keep the lines of their nodes. -/
theorem lines_records_sublist {ρ : Type} {record? : Node → Option ρ} {range : ρ → LineRange}
    (h : ∀ n r, record? n = some r → range r = n.lines) (ns : List Node) :
    ((ns.filterMap record?).map range).Sublist (ns.map lines) := by
  induction ns with
  | nil => exact .slnil
  | cons n rest ih =>
    cases hr : record? n with
    | none =>
      rw [List.filterMap_cons_none hr]
      exact ih.cons _
    | some r =>
      rw [List.filterMap_cons_some hr, List.map_cons, List.map_cons, h n r hr]
      exact ih.cons_cons _

end Node

def FunctionRecord.lines (f : FunctionRecord) : LineRange := ⟨f.startLine, f.endLine⟩

def ClassRecord.lines (c : ClassRecord) : LineRange := ⟨c.startLine, c.endLine⟩

namespace Node

theorem lines_of_function {lang : Language} {source : Source} (n : Node) (f : FunctionRecord)
    (h : n.function? lang source = some f) : f.lines = n.lines := by
  obtain ⟨kind, -, h⟩ := Option.bind_eq_some_iff.1 h
  obtain ⟨name, -, h⟩ := Option.bind_eq_some_iff.1 h
  cases h
  rfl

theorem lines_of_class {lang : Language} {source : Source} (n : Node) (c : ClassRecord)
    (h : n.class? lang source = some c) : c.lines = n.lines := by
  obtain ⟨found, -, rfl⟩ := Option.map_eq_some_iff.1 h
  rfl

/-- **Functions and classes are recorded in source order.**  In a tree that is laid out as a parser does it, the records of
either start one after the other, none ends before it starts, and any two, of either or of both, are nested or have at
most one line in common.  Lines are counted from one when rows are counted from zero. -/
theorem records_follow_source {root : Node} (h : root.IsOrderly) (lang : Language) (source : Source) :
    let functions := (root.functions lang source).map FunctionRecord.lines
    let classes := (root.classes lang source).map ClassRecord.lines
    FollowSource functions ∧ FollowSource classes ∧
      (∀ r ∈ functions ++ classes, ∀ s ∈ functions ++ classes, r.IsLaminar s) ∧
      (0 ≤ root.row → ∀ r ∈ functions ++ classes, 1 ≤ r.first) := by
  intro functions classes
  have hfunctions : functions.Sublist (root.preorder.map lines) := lines_records_sublist lines_of_function root.preorder
  have hclasses : classes.Sublist (root.preorder.map lines) := lines_records_sublist lines_of_class root.preorder
  have hnodes := followSource_preorder h
  have hmem : ∀ r ∈ functions ++ classes, r ∈ root.preorder.map lines := by
    intro r hr
    rcases List.mem_append.1 hr with hr | hr
    · exact hfunctions.subset hr
    · exact hclasses.subset hr
  refine ⟨hnodes.sublist hfunctions, hnodes.sublist hclasses, fun r hr s hs => ?_, fun hrow r hr => ?_⟩
  · exact hnodes.isLaminar (hmem r hr) (hmem s hs)
  obtain ⟨n, hn, rfl⟩ := List.mem_map.1 (hmem r hr)
  exact Int.add_le_add_right (Int.le_trans hrow (h.within n hn).1) 1

/-- A function with another one inside, a third that starts on the row where the first one ends, and a class on its last
row. -/
def sharedRow : Node :=
  let define (kind : String) (row endRow : Int) (inside : List Node) : Node :=
    ⟨kind, 0, 1, row, endRow, none, ⟨"identifier", 0, 1, row, row, some "name", []⟩ :: inside⟩
  ⟨"module", 0, 1, 0, 4, none,
    [define "function_definition" 0 2 [define "function_definition" 1 2 []],
      define "function_definition" 2 4 [define "class_definition" 4 4 []]]⟩

theorem records_follow_source_sharedRow :
    sharedRow.IsOrderly ∧ 0 ≤ sharedRow.row ∧
      (sharedRow.functions .python (some "f")).map FunctionRecord.lines = [⟨1, 3⟩, ⟨2, 3⟩, ⟨3, 5⟩] ∧
      (sharedRow.classes .python (some "f")).map ClassRecord.lines = [⟨5, 5⟩] ∧
      FollowSource [⟨1, 3⟩, ⟨2, 3⟩, ⟨3, 5⟩] ∧ FollowSource [⟨5, 5⟩] ∧
      LineRange.IsLaminar ⟨5, 5⟩ ⟨3, 5⟩ ∧ LineRange.IsLaminar ⟨1, 3⟩ ⟨5, 5⟩ ∧
      ∀ r ∈ [⟨1, 3⟩, ⟨2, 3⟩, ⟨3, 5⟩] ++ [(⟨5, 5⟩ : LineRange)], 1 ≤ r.first := by
  have horderly : sharedRow.IsOrderly := by decide +kernel
  have hrow : 0 ≤ sharedRow.row := by decide
  have hfunctions : (sharedRow.functions .python (some "f")).map FunctionRecord.lines = [⟨1, 3⟩, ⟨2, 3⟩, ⟨3, 5⟩] := by
    decide +kernel
  have hclasses : (sharedRow.classes .python (some "f")).map ClassRecord.lines = [⟨5, 5⟩] := by decide +kernel
  have hrecords := records_follow_source horderly .python (some "f")
  rw [hfunctions, hclasses] at hrecords
  obtain ⟨hinorder, hclassorder, hlaminar, hlines⟩ := hrecords
  exact ⟨horderly, hrow, hfunctions, hclasses, hinorder, hclassorder, hlaminar _ (by simp) _ (by simp),
    hlaminar _ (by simp) _ (by simp), hlines hrow⟩

end Node
end PullReview
