import PullReview.Proofs.Graph.Nodes
/-!
# The edges of a graph

An edge comes from one of four places of the walk (`Hangs`): something is defined, imported or called inside a function,
or it is imported outside of all.  Both of its ends are nodes by then, since a function is put into the graph before what
stands inside of it (`Encloses`), and the file comes into the graph only with an edge (`IsShaped`).
-/
namespace PullReview
namespace Graph

/-! ## Adding to a graph -/

theorem mem_map_label_putAll (l : Label) : ∀ es nodes : List Entity,
    l ∈ (putAll es nodes).map Entity.label ↔ l ∈ es.map Entity.label ∨ l ∈ nodes.map Entity.label
  | [], nodes => by simp [putAll]
  | e :: rest, nodes => by
    have ih := mem_map_label_putAll l rest (putBy Entity.label e nodes)
    rw [putAll, List.foldl_cons, ← putAll, ih, mem_map_key_putBy, List.map_cons, List.mem_cons, or_left_comm, or_assoc]

def labels (g : Graph) : List Label := g.nodes.map Entity.label

theorem mem_labels_addNode (g : Graph) (e : Entity) (l : Label) :
    l ∈ (g.addNode e).labels ↔ l = e.label ∨ l ∈ g.labels := mem_map_key_putBy g.nodes

theorem mem_labels_visit (lang : Language) (source : Source) (g : Graph) (seen : Option Label × Node) (l : Label) :
    l ∈ (visit lang source g seen).labels ↔ l ∈ (mentioned lang source seen).map Entity.label ∨ l ∈ g.labels := by
  rw [labels, nodes_visit, mem_map_label_putAll, labels]

/-! ## The shape -/

def Label.IsScope (l : Label) : Prop := ∃ e : Entity, e.label = l ∧ e.kind.isScope = true

/-- The ways in which an edge can come about. -/
inductive Hangs : Edge → Prop where
  | contains {f : Label} {e : Entity} (hf : f.IsScope) (he : e.kind.isDefinition = true) : Hangs ⟨f, e.label, .contains⟩
  | uses {f : Label} (hf : f.IsScope) (text : String) : Hangs ⟨f, Entity.label ⟨.importLine, text⟩, .uses⟩
  | imports (text : String) : Hangs ⟨anchor.label, Entity.label ⟨.importLine, text⟩, .imports⟩
  | calls {f : Label} (hf : f.IsScope) (name : String) : Hangs ⟨f, Entity.label ⟨.call, name⟩, .calls⟩

/-- What holds of a graph after every step. -/
structure IsSound (g : Graph) : Prop where
  proper : ∀ e ∈ g.nodes, e.IsProper
  ends : ∀ x ∈ g.edges, x.source ∈ g.labels ∧ x.target ∈ g.labels
  hangs : ∀ x ∈ g.edges, Hangs x

/-- What holds of a graph after every node of the tree: the file is there only with an edge. -/
structure IsShaped (g : Graph) : Prop extends IsSound g where
  anchored : anchor.label ∈ g.labels → ∃ x ∈ g.edges, x.source = anchor.label

/-- The scope, if there is one, is a function of the graph. -/
def Encloses (g : Graph) (scope : Option Label) : Prop := ∀ f ∈ scope, f ∈ g.labels ∧ f.IsScope

variable {g : Graph} {scope : Option Label}

theorem Encloses.mono {g' : Graph} (h : g.Encloses scope) (hsub : g.labels ⊆ g'.labels) : g'.Encloses scope :=
  fun f hf => ⟨hsub (h f hf).1, (h f hf).2⟩

theorem subset_labels_addNode (g : Graph) (e : Entity) : g.labels ⊆ (g.addNode e).labels :=
  fun _ hl => (mem_labels_addNode g e _).2 (.inr hl)

theorem subset_labels_foldl (lang : Language) (source : Source) : ∀ (seen : List (Option Label × Node)) (g : Graph),
    g.labels ⊆ (seen.foldl (visit lang source) g).labels
  | [], _ => List.Subset.refl _
  | first :: rest, g => by
    have hfirst : g.labels ⊆ (visit lang source g first).labels :=
      fun l hl => (mem_labels_visit lang source g first l).2 (.inr hl)
    exact List.Subset.trans hfirst (subset_labels_foldl lang source rest _)

theorem isProper_of_ne {e : Entity} (h : e.kind ≠ .file) : e.IsProper := fun hfile => absurd hfile h

namespace IsSound

theorem addNode (h : g.IsSound) {e : Entity} (he : e.IsProper) : (g.addNode e).IsSound where
  proper x hx := by
    rcases mem_putBy hx with rfl | hx
    · exact he
    · exact h.proper x hx
  ends x hx := (h.ends x hx).imp (subset_labels_addNode g e ·) (subset_labels_addNode g e ·)
  hangs := h.hangs

theorem addEdge (h : g.IsSound) {source target : Label} {relation : Relation} (hsource : source ∈ g.labels)
    (htarget : target ∈ g.labels) (hangs : Hangs ⟨source, target, relation⟩) :
    (g.addEdge source target relation).IsSound where
  proper := h.proper
  ends x hx := by
    rcases mem_putBy hx with rfl | hx
    · exact ⟨hsource, htarget⟩
    · exact h.ends x hx
  hangs x hx := by
    rcases mem_putBy hx with rfl | hx
    · exact hangs
    · exact h.hangs x hx

end IsSound

namespace IsShaped

theorem empty : Graph.empty.IsShaped where
  proper _ h := absurd h List.not_mem_nil
  ends _ h := absurd h List.not_mem_nil
  hangs _ h := absurd h List.not_mem_nil
  anchored h := absurd h List.not_mem_nil

theorem addNode (h : g.IsShaped) {e : Entity} (he : e.kind ≠ .file) : (g.addNode e).IsShaped where
  toIsSound := h.toIsSound.addNode (isProper_of_ne he)
  anchored hanchor := by
    rcases (mem_labels_addNode g e _).1 hanchor with heq | hanchor
    · exact absurd ((role_eq_file_iff e.kind).1 (congrArg Label.role heq).symm) he
    · exact h.anchored hanchor

theorem addEdge (h : g.IsShaped) {source target : Label} {relation : Relation} (hsource : source ∈ g.labels)
    (htarget : target ∈ g.labels) (hangs : Hangs ⟨source, target, relation⟩) :
    (g.addEdge source target relation).IsShaped where
  toIsSound := h.toIsSound.addEdge hsource htarget hangs
  anchored hanchor := by
    obtain ⟨x, hx, hsource⟩ := h.anchored hanchor
    -- where an edge starts, one starts ever after
    have hkept : x.ends ∈ (g.addEdge source target relation).edges.map Edge.ends :=
      (mem_map_key_putBy g.edges).2 (.inr (List.mem_map_of_mem hx))
    obtain ⟨y, hy, hends⟩ := List.mem_map.1 hkept
    exact ⟨y, hy, (congrArg Prod.fst hends).trans hsource⟩

theorem addDefinition (h : g.IsShaped) (hscope : g.Encloses scope) {e : Entity} (he : e.kind.isDefinition = true) :
    (g.addDefinition scope e).IsShaped := by
  have hfile := kind_of_isDefinition he
  cases scope with
  | none => exact h.addNode hfile
  | some f =>
    obtain ⟨hf, hisScope⟩ := hscope f rfl
    exact (h.addNode hfile).addEdge (subset_labels_addNode g e hf) ((mem_labels_addNode g e _).2 (.inl rfl))
      (.contains hisScope he)

theorem addImport (h : g.IsShaped) (hscope : g.Encloses scope) (text : String) : (g.addImport scope text).IsShaped := by
  have hnode : (g.addNode ⟨.importLine, text⟩).IsShaped := h.addNode (by simp)
  have hlabel := (mem_labels_addNode g ⟨.importLine, text⟩ _).2 (.inl rfl)
  cases scope with
  | none =>
    -- the file comes into the graph together with an edge
    have hanchor := (mem_labels_addNode (g.addNode ⟨.importLine, text⟩) anchor _).2 (.inl rfl)
    refine ⟨(hnode.toIsSound.addNode fun _ => rfl).addEdge hanchor (subset_labels_addNode _ anchor hlabel) (.imports text), ?_⟩
    exact fun _ => ⟨_, self_mem_putBy _, rfl⟩
  | some f =>
    obtain ⟨hf, hisScope⟩ := hscope f rfl
    exact hnode.addEdge (subset_labels_addNode g _ hf) hlabel (.uses hisScope text)

theorem addCall (h : g.IsShaped) (hscope : g.Encloses scope) (name : String) : (g.addCall scope name).IsShaped := by
  cases scope with
  | none => exact h
  | some f =>
    obtain ⟨hf, hisScope⟩ := hscope f rfl
    have hnode : (g.addNode ⟨.call, name⟩).IsShaped := h.addNode (by simp)
    exact hnode.addEdge (subset_labels_addNode g _ hf) ((mem_labels_addNode g _ _).2 (.inl rfl)) (.calls hisScope name)

end IsShaped

/-! ## The scope -/

theorem subset_labels_addImport (g : Graph) (scope : Option Label) (text : String) :
    g.labels ⊆ (g.addImport scope text).labels := by
  cases scope with
  | none => exact List.Subset.trans (subset_labels_addNode g _) (subset_labels_addNode _ anchor)
  | some f => exact subset_labels_addNode g _

/-- What stands inside a node has its scope in the graph, once the node was visited. -/
theorem Encloses.visit (h : g.Encloses scope) (lang : Language) (source : Source) (n : Node) :
    (visit lang source g (scope, n)).Encloses (innerScope lang source scope n) := by
  have hold : (Graph.visit lang source g (scope, n)).Encloses scope :=
    h.mono fun l hl => (mem_labels_visit lang source g (scope, n) l).2 (.inr hl)
  rw [innerScope]
  cases he : defined? lang source n with
  | none => exact hold
  | some e =>
    dsimp only
    split <;> rename_i hkind
    · intro f hf
      obtain rfl : e.label = f := Option.some.inj hf
      refine ⟨(mem_labels_visit lang source g (scope, n) _).2 (.inl ?_), e, rfl, hkind⟩
      rw [mentioned, he]
      simp
    · exact hold

end Graph
end PullReview
