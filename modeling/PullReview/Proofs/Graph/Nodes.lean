import Mathlib.Data.List.Nodup
import PullReview.Graph.Build
import PullReview.Proofs.Keyed
import PullReview.Proofs.Text.Cut
/-!
# The nodes of a graph

A tree is walked with the scope of every node at hand, and the nodes are met in preorder whatever the scopes are
(`nodes_withScope`).  What is met puts entities into the graph one after the other, and edges never add any
(`nodes_ofTree`).  So a graph has one node for each label that was put, in the order in which the labels came
(`labels_ofTree`).  A label can be read off its text, whatever the path and the names are (`inFile_inj`): no two nodes look
alike.
-/
namespace PullReview
namespace Graph

open Text

/-! ## Labels -/

theorem colon_not_mem_role (kind : EntityKind) : ':' ∉ kind.role.toList := by cases kind <;> decide

/-- Only the two kinds of Go types share a role. -/
theorem role_cases {k k' : EntityKind} : k.role = k'.role →
    k = k' ∨ k = .structType ∧ k' = .interfaceType ∨ k = .interfaceType ∧ k' = .structType := by
  cases k <;> cases k' <;> decide

/-- What does not tell these two apart can be told from the role. -/
theorem eq_of_role {α : Type} (f : EntityKind → α) (hf : f .structType = f .interfaceType) {k k' : EntityKind}
    (h : k.role = k'.role) : f k = f k' := by
  rcases role_cases h with rfl | ⟨rfl, rfl⟩ | ⟨rfl, rfl⟩
  · rfl
  · exact hf
  · exact hf.symm

/-- A role that is the name of a kind is that of no other. -/
theorem role_eq_iff {k' : EntityKind} (h' : k'.role = k'.name) (k : EntityKind) : k.role = k'.role ↔ k = k' := by
  refine ⟨fun h => ?_, congrArg _⟩
  rcases role_cases h with rfl | ⟨rfl, rfl⟩ | ⟨rfl, rfl⟩
  · rfl
  · exact absurd h' (by decide)
  · exact absurd h' (by decide)

theorem role_eq_file_iff (kind : EntityKind) : kind.role = EntityKind.file.role ↔ kind = .file := role_eq_iff rfl kind

/-- Only the file goes without a name. -/
def Entity.IsProper (e : Entity) : Prop := e.kind = .file → e = anchor

theorem inFile_of_ne_file {e : Entity} (h : e.kind ≠ .file) (path : String) :
    e.label.inFile path = path ++ "::" ++ e.kind.role ++ "::" ++ e.name :=
  if_neg (mt (role_eq_file_iff e.kind).1 h)

theorem inFile_anchor_ne (path : String) (kind : EntityKind) (name : String) :
    anchor.label.inFile path ≠ path ++ "::" ++ kind.role ++ "::" ++ name := by
  intro heq
  have hchars := congrArg String.toList heq
  simp only [Label.inFile, anchor, Entity.label, if_true, String.toList_append, List.append_assoc,
    List.append_cancel_left_eq] at hchars
  have hcolon : ':' ∈ EntityKind.file.role.toList := by
    rw [hchars]
    simp
  exact colon_not_mem_role .file hcolon

/-- **Labels that look alike are one.** -/
theorem inFile_inj (path : String) {e e' : Entity} (h : e.IsProper) (h' : e'.IsProper) :
    e.label.inFile path = e'.label.inFile path ↔ e.label = e'.label := by
  refine ⟨fun heq => ?_, congrArg _⟩
  by_cases hk : e.kind = .file
  · by_cases hk' : e'.kind = .file
    · rw [h hk, h' hk']
    · rw [h hk, inFile_of_ne_file hk'] at heq
      exact absurd heq (inFile_anchor_ne path _ _)
  · by_cases hk' : e'.kind = .file
    · rw [h' hk', inFile_of_ne_file hk] at heq
      exact absurd heq.symm (inFile_anchor_ne path _ _)
    · rw [inFile_of_ne_file hk, inFile_of_ne_file hk'] at heq
      have hchars := congrArg String.toList heq
      simp only [String.toList_append, List.append_assoc, List.append_cancel_left_eq] at hchars
      -- a role holds no colon, so it ends at the first one
      obtain ⟨hrole, hname⟩ := cut_unique hchars (colon_not_mem_role e.kind) (colon_not_mem_role e'.kind)
      rw [Entity.label, Entity.label, String.toList_inj.1 hrole, String.toList_inj.1 (List.cons.inj hname).2]

/-! ## The walk -/

mutual

theorem nodes_withScope (lang : Language) (source : Source) (scope : Option Label) :
    ∀ n : Node, (withScope lang source scope n).map Prod.snd = n.preorder
  | ⟨kind, start, stop, row, endRow, field, children⟩ => by
    rw [withScope, Node.preorder, List.map_cons, nodes_withScopeAll lang source _ children]

theorem nodes_withScopeAll (lang : Language) (source : Source) (scope : Option Label) :
    ∀ ns : List Node, (withScopeAll lang source scope ns).map Prod.snd = Node.preorderAll ns
  | [] => by rw [withScopeAll, Node.preorderAll, List.map_nil]
  | n :: rest => by
    rw [withScopeAll, Node.preorderAll, List.map_append, nodes_withScope lang source scope n,
      nodes_withScopeAll lang source scope rest]

end

/-! ## What is put into the graph -/

/-- The import or the call that a node of a tree stands for.  An import outside of functions needs the file. -/
def used (lang : Language) (source : Source) : Option Label × Node → List Entity
  | (scope, n) =>
    ((imported? lang source n).elim [] fun text => ⟨.importLine, text⟩ :: if scope.isSome then [] else [anchor]) ++
      if scope.isSome then ((called? lang source n).map (Entity.mk .call)).toList else []

/-- The entities that one node of a tree puts into the graph. -/
def mentioned (lang : Language) (source : Source) (seen : Option Label × Node) : List Entity :=
  (defined? lang source seen.2).toList ++ used lang source seen

/-- The entities one after the other, those with an old label at its place. -/
def putAll (es nodes : List Entity) : List Entity := es.foldl (fun nodes e => putBy Entity.label e nodes) nodes

theorem nodes_visit (lang : Language) (source : Source) (g : Graph) (seen : Option Label × Node) :
    (visit lang source g seen).nodes = putAll (mentioned lang source seen) g.nodes := by
  obtain ⟨scope, n⟩ := seen
  unfold visit mentioned used
  dsimp only
  cases scope <;> cases defined? lang source n <;> cases imported? lang source n <;> cases called? lang source n <;> rfl

def mentions (lang : Language) (source : Source) (root : Node) : List Entity :=
  (withScope lang source none root).flatMap (mentioned lang source)

/-- **The nodes of a graph are the entities that its tree mentions, put one after the other.** -/
theorem nodes_ofTree (lang : Language) (source : Source) (root : Node) :
    (ofTree lang source root).nodes = putAll (mentions lang source root) [] := by
  have hfold : ∀ (seen : List (Option Label × Node)) (g : Graph),
      (seen.foldl (visit lang source) g).nodes = putAll (seen.flatMap (mentioned lang source)) g.nodes := by
    intro seen
    induction seen with
    | nil => exact fun _ => rfl
    | cons first rest ih =>
      intro g
      rw [List.foldl_cons, ih, nodes_visit, List.flatMap_cons, putAll, putAll, putAll, List.foldl_append]
  exact hfold _ empty

theorem map_label_putAll (es : List Entity) : (putAll es []).map Entity.label = distinct (es.map Entity.label) := by
  induction es using List.reverseRecOn with
  | nil => rfl
  | append_singleton es e ih =>
    rw [putAll, List.foldl_append, List.foldl_cons, List.foldl_nil, map_key_putBy, ← putAll, ih, List.map_append,
      List.map_singleton, distinct_concat]
    simp only [mem_distinct_iff]

theorem mem_putAll {e : Entity} {es : List Entity} (h : e ∈ putAll es []) : e ∈ es := by
  induction es using List.reverseRecOn with
  | nil => exact h
  | append_singleton es x ih =>
    rw [putAll, List.foldl_append, List.foldl_cons, List.foldl_nil, ← putAll] at h
    rcases mem_putBy h with h | h
    · simp [h]
    · exact List.mem_append_left _ (ih h)

/-! ## Labels of the nodes -/

/-- **A graph has one node for each label that its tree mentions.** -/
theorem labels_ofTree (lang : Language) (source : Source) (root : Node) :
    (ofTree lang source root).nodes.map Entity.label = distinct ((mentions lang source root).map Entity.label) := by
  rw [nodes_ofTree, map_label_putAll]

def EntityKind.isDefinition : EntityKind → Bool
  | .importLine | .call | .file => false
  | _ => true

theorem kind_of_isDefinition {kind : EntityKind} (h : kind.isDefinition = true) : kind ≠ .file := by
  rintro rfl
  cases h

theorem isDefinition_of_defined {lang : Language} {source : Source} {n : Node} {e : Entity}
    (h : defined? lang source n = some e) : e.kind.isDefinition = true := by
  have hnamed {kind : EntityKind} {field : String}
      (h : (n.fieldText? source field).map (fun name => Entity.mk kind name) = some e) : e.kind = kind := by
    obtain ⟨name, -, rfl⟩ := Option.map_eq_some_iff.1 h
    rfl
  unfold defined? at h
  dsimp only at h
  repeat' split at h
  -- nodes of other kinds define nothing
  all_goals try cases h
  all_goals
    rw [hnamed h]
    decide

theorem kind_of_defined {lang : Language} {source : Source} {n : Node} {e : Entity}
    (h : defined? lang source n = some e) : e.kind ≠ .file := kind_of_isDefinition (isDefinition_of_defined h)

/-- What a node uses is an import, with the file when no function is around it, or a call. -/
theorem used_cases {lang : Language} {source : Source} {seen : Option Label × Node} {e : Entity}
    (h : e ∈ used lang source seen) : e.kind = .importLine ∨ e = anchor ∨
      e.kind = .call ∧ called? lang source seen.2 = some e.name := by
  obtain ⟨scope, n⟩ := seen
  rcases List.mem_append.1 h with himported | hcalled
  · cases htext : imported? lang source n with
    | none => simp [htext] at himported
    | some text =>
      simp only [htext, Option.elim_some, List.mem_cons] at himported
      rcases himported with rfl | hfile
      · exact .inl rfl
      · cases scope with
        | none => exact .inr (.inl (List.mem_singleton.1 hfile))
        | some f => cases hfile
  · cases scope with
    | none => cases hcalled
    | some f =>
      simp only [Option.isSome_some, if_true, Option.mem_toList, Option.map_eq_some_iff] at hcalled
      obtain ⟨name, hname, rfl⟩ := hcalled
      exact .inr (.inr ⟨rfl, hname⟩)

theorem kind_of_used {lang : Language} {source : Source} {seen : Option Label × Node} {e : Entity}
    (h : e ∈ used lang source seen) : e.kind = .importLine ∨ e = anchor ∨ e.kind = .call :=
  (used_cases h).imp_right (.imp_right And.left)

theorem isProper_of_mem {lang : Language} {source : Source} {root : Node} {e : Entity}
    (h : e ∈ (ofTree lang source root).nodes) : e.IsProper := by
  rw [nodes_ofTree] at h
  obtain ⟨seen, -, hmem⟩ := List.mem_flatMap.1 (mem_putAll h)
  intro hfile
  rcases List.mem_append.1 hmem with hdefined | hused
  · exact absurd hfile (kind_of_defined (Option.mem_toList.1 hdefined))
  · rcases kind_of_used hused with himport | hanchor | hcall
    · simp [himport] at hfile
    · exact hanchor
    · simp [hcall] at hfile

theorem nodup_labels (lang : Language) (source : Source) (root : Node) :
    ((ofTree lang source root).nodes.map Entity.label).Nodup := by
  rw [labels_ofTree]
  exact nodup_distinct _

/-- **No two nodes of a graph look alike.** -/
theorem nodup_inFile (lang : Language) (source : Source) (root : Node) (path : String) :
    ((ofTree lang source root).nodes.map fun e => e.label.inFile path).Nodup := by
  have hmap : (ofTree lang source root).nodes.map (fun e => e.label.inFile path) =
      ((ofTree lang source root).nodes.map Entity.label).map (Label.inFile path) := by
    rw [List.map_map]
    rfl
  rw [hmap]
  refine List.Nodup.map_on (fun l hl l' hl' heq => ?_) (nodup_labels lang source root)
  obtain ⟨e, he, rfl⟩ := List.mem_map.1 hl
  obtain ⟨e', he', rfl⟩ := List.mem_map.1 hl'
  exact (inFile_inj path (isProper_of_mem he) (isProper_of_mem he')).1 heq

end Graph
end PullReview
