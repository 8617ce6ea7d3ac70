import PullReview.Tree.Basic
/-!
# Trees in preorder

A tree is its root and the trees of the children, one after the other (`preorder_eq`).  What holds of a node whenever it
holds of the children holds of every tree (`ofChildren`), and all that stands below a child stands below its parent
(`preorder_subset`).
-/
namespace PullReview
namespace Node

theorem preorderAll_eq (ns : List Node) : preorderAll ns = ns.flatMap preorder := by
  induction ns with
  | nil => rw [preorderAll, List.flatMap_nil]
  | cons n rest ih => rw [preorderAll, ih, List.flatMap_cons]

theorem preorder_eq (n : Node) : n.preorder = n :: n.children.flatMap preorder := by
  obtain ⟨kind, start, stop, row, endRow, field, children⟩ := n
  rw [preorder, preorderAll_eq]

mutual

/-- **Induction over a tree**, from the children of a node to the node. -/
theorem ofChildren {motive : Node → Prop} (step : ∀ n : Node, (∀ c ∈ n.children, motive c) → motive n) :
    ∀ n : Node, motive n
  | ⟨_, _, _, _, _, _, children⟩ => step _ (ofChildrenAll step children)

theorem ofChildrenAll {motive : Node → Prop} (step : ∀ n : Node, (∀ c ∈ n.children, motive c) → motive n) :
    ∀ ns : List Node, ∀ c ∈ ns, motive c
  | [], _, hc => absurd hc List.not_mem_nil
  | first :: rest, c, hc => by
    rcases List.mem_cons.1 hc with heq | hc
    · exact heq ▸ ofChildren step first
    · exact ofChildrenAll step rest c hc

end

theorem mem_preorder_iff {n m : Node} : m ∈ n.preorder ↔ m = n ∨ ∃ c ∈ n.children, m ∈ c.preorder := by
  rw [preorder_eq, List.mem_cons, List.mem_flatMap]

theorem self_mem_preorder (n : Node) : n ∈ n.preorder := mem_preorder_iff.2 (.inl rfl)

theorem preorder_subset {n c : Node} (hc : c ∈ n.children) : c.preorder ⊆ n.preorder :=
  fun _ hm => mem_preorder_iff.2 (.inr ⟨c, hc, hm⟩)

end Node
end PullReview
