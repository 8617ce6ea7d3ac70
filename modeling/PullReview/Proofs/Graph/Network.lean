import PullReview.Proofs.Graph.Shape
import PullReview.Proofs.Run
import PullReview.Store.Index
/-!
# Graphs as networks

While a tree is drawn into a network, no two labels clash and no edge misses one of its ends, so nothing is put over what
was there and nothing is made up: the network is the graph of the tree written out (`draws_ofTree`).  What is said about
graphs holds of the network then (`network_shaped`).
-/
namespace PullReview

namespace Network

open PullReview.Graph

/-! ## A graph written out -/

theorem has_iff (net : Network) (label : String) : net.has label = true ↔ label ∈ net.nodes.map Prod.fst := by
  rw [has, Option.isSome_iff_ne_none, ne_eq, List.lookup_eq_none_iff]
  simp

theorem detail_cases (k : EntityKind) : k.detail = none ∨ k.detail = some "text" ∨ k.detail = some "name" := by
  cases k <;> simp [EntityKind.detail]

/-- Nodes with one label have the same attributes, so those of the later one are put over all others. -/
theorem attributes_over {e x : Entity} (h : x.label = e.label) :
    e.attributes.foldl (fun kept a => putBy Prod.fst a kept) x.attributes = e.attributes := by
  have hdetail : x.kind.detail = e.kind.detail := eq_of_role _ rfl (congrArg Label.role h)
  rw [Entity.attributes, Entity.attributes, hdetail]
  rcases detail_cases e.kind with hcase | hcase | hcase <;> rw [hcase] <;> rfl

theorem attributes_new (e : Entity) : e.attributes.foldl (fun kept a => putBy Prod.fst a kept) [] = e.attributes := by
  rw [Entity.attributes]
  rcases detail_cases e.kind with hcase | hcase | hcase <;> rw [hcase] <;> rfl

variable {path : String} {g : Graph}

theorem inFile_inj_of_mem (h : g.IsSound) {l l' : Label} (hl : l ∈ g.labels) (hl' : l' ∈ g.labels) :
    l.inFile path = l'.inFile path ↔ l = l' := by
  obtain ⟨e, he, rfl⟩ := List.mem_map.1 hl
  obtain ⟨e', he', rfl⟩ := List.mem_map.1 hl'
  exact inFile_inj path (h.proper e he) (h.proper e' he')

theorem has_written {l : Label} (hl : l ∈ g.labels) : (g.written path).has (l.inFile path) = true := by
  rw [has_iff]
  obtain ⟨e, he, rfl⟩ := List.mem_map.1 hl
  exact List.mem_map.2 ⟨_, List.mem_map.2 ⟨e, he, rfl⟩, rfl⟩

/-- A node has the attributes that it is added with, whatever it had. -/
theorem attributes_added (h : g.IsSound) {e : Entity} (he : e.IsProper) :
    e.attributes.foldl (fun kept a => putBy Prod.fst a kept)
      (((g.written path).nodes.lookup (e.label.inFile path)).getD []) = e.attributes := by
  cases hold : (g.written path).nodes.lookup (e.label.inFile path) with
  | none => exact attributes_new e
  | some old =>
    obtain ⟨before, after, hnodes, -⟩ := List.lookup_eq_some_iff.1 hold
    have hmem : (e.label.inFile path, old) ∈ (g.written path).nodes := by simp [hnodes]
    obtain ⟨x, hx, hsame⟩ := List.mem_map.1 hmem
    obtain ⟨htext, rfl⟩ := Prod.mk.inj hsame
    exact attributes_over ((inFile_inj path (h.proper x hx) he).1 htext)

theorem written_addNode (h : g.IsSound) {e : Entity} (he : e.IsProper) :
    (g.addNode e).written path = (g.written path).addNode (e.label.inFile path) e.attributes := by
  -- the texts are the same just when the labels are
  have hnodes : (g.addNode e).nodes.map (fun x => (x.label.inFile path, x.attributes)) =
      putBy Prod.fst (e.label.inFile path, e.attributes) (g.written path).nodes :=
    map_putBy fun x hx => inFile_inj path (h.proper x hx) he
  rw [addNode, attributes_added h he, ← hnodes]
  rfl

theorem withEnd_of_has {net : Network} {label : String} (h : net.has label = true) : net.withEnd label = net := if_pos h

theorem written_addEdge (h : g.IsSound) {source target : Label} (relation : Relation) (hsource : source ∈ g.labels)
    (htarget : target ∈ g.labels) : (g.addEdge source target relation).written path =
      (g.written path).addEdge (source.inFile path) (target.inFile path) relation.name := by
  have hedges : (g.addEdge source target relation).edges.map
      (fun x => ((x.source.inFile path, x.target.inFile path), x.relation.name)) =
      putBy Prod.fst ((source.inFile path, target.inFile path), relation.name) (g.written path).edges := by
    refine map_putBy fun x hx => ?_
    obtain ⟨hxsource, hxtarget⟩ := h.ends x hx
    rw [Prod.mk.injEq, inFile_inj_of_mem h hxsource hsource, inFile_inj_of_mem h hxtarget htarget, Edge.ends, Edge.ends,
      Prod.mk.injEq]
  rw [addEdge, withEnd_of_has (has_written hsource), withEnd_of_has (has_written htarget)]
  exact congrArg (Network.mk _ ·) hedges

theorem has_written_iff (h : g.IsSound) {e : Entity} (he : e.IsProper) :
    (g.written path).has (e.label.inFile path) = true ↔ e.label ∈ g.labels := by
  refine ⟨fun hhas => ?_, has_written⟩
  rw [has_iff, Graph.written, List.map_map] at hhas
  obtain ⟨x, hx, htext⟩ := List.mem_map.1 hhas
  exact List.mem_map.2 ⟨x, hx, (inFile_inj path (h.proper x hx) he).1 htext⟩

/-- There is but one node for the file, so it need not be added again. -/
theorem written_addAnchor (h : g.IsSound) : (g.addNode anchor).written path =
    if (g.written path).has (anchor.label.inFile path) then g.written path
    else (g.written path).addNode (anchor.label.inFile path) anchor.attributes := by
  have hproper : anchor.IsProper := fun _ => rfl
  split <;> rename_i hhas
  · have hmem := (has_written_iff h hproper).1 hhas
    have hsame : putBy Entity.label anchor g.nodes = g.nodes := by
      refine putBy_of_mem (fun x hx hlabel => h.proper x hx ?_) hmem
      exact (role_eq_file_iff x.kind).1 (congrArg Label.role hlabel)
    rw [Graph.addNode, hsame]
  · exact written_addNode h hproper

/-! ## The tree drawn -/

/-- What defines something is neither a call nor an import. -/
theorem unused_of_defined {lang : Language} {source : Source} {n : Node} {e : Entity}
    (h : defined? lang source n = some e) : imported? lang source n = none ∧ called? lang source n = none := by
  unfold defined? at h
  dsimp only at h
  split at h
  all_goals simp_all [imported?, called?]

/-- The network is the graph written out, and the graph has its shape. -/
structure Draws (path : String) (net : Network) (g : Graph) : Prop where
  written : net = g.written path
  shaped : g.IsShaped

namespace Draws

variable {net : Network} {scope : Option Label}

/-- A node below a scope. -/
theorem hang (h : Draws path net g) {f : Label} (hf : f ∈ g.labels) {e : Entity} (he : e.IsProper) (relation : Relation) :
    ((g.addNode e).addEdge f e.label relation).written path =
      (net.addNode (e.label.inFile path) e.attributes).addEdge (f.inFile path) (e.label.inFile path) relation.name := by
  rw [written_addEdge (h.shaped.toIsSound.addNode he) relation (subset_labels_addNode g e hf)
    ((mem_labels_addNode g e _).2 (.inl rfl)), written_addNode h.shaped.toIsSound he, h.written]

theorem addDefinition (h : Draws path net g) (hscope : g.Encloses scope) {e : Entity} (he : e.kind.isDefinition = true) :
    Draws path (addDefinition path net (scope.map (Label.inFile path)) e) (g.addDefinition scope e) := by
  have hproper := isProper_of_ne (kind_of_isDefinition he)
  refine ⟨?_, h.shaped.addDefinition hscope he⟩
  cases scope with
  | none => exact (h.written ▸ written_addNode h.shaped.toIsSound hproper).symm
  | some f => exact (h.hang (hscope f rfl).1 hproper .contains).symm

theorem addImport (h : Draws path net g) (hscope : g.Encloses scope) (text : String) :
    Draws path (addImport path net (scope.map (Label.inFile path)) text) (g.addImport scope text) := by
  have hproper : Entity.IsProper ⟨.importLine, text⟩ := isProper_of_ne (by simp)
  refine ⟨?_, h.shaped.addImport hscope text⟩
  cases scope with
  | none =>
    have hsound := h.shaped.toIsSound.addNode hproper
    have hlabel := (mem_labels_addNode g ⟨.importLine, text⟩ _).2 (.inl rfl)
    have hanchor := (mem_labels_addNode (g.addNode ⟨.importLine, text⟩) anchor _).2 (.inl rfl)
    rw [Graph.addImport, written_addEdge (hsound.addNode fun _ => rfl) .imports hanchor (subset_labels_addNode _ anchor hlabel),
      written_addAnchor hsound, written_addNode h.shaped.toIsSound hproper, ← h.written]
    rfl
  | some f => exact (h.hang (hscope f rfl).1 hproper .uses).symm

theorem addCall (h : Draws path net g) (hscope : g.Encloses scope) (name : String) :
    Draws path (addCall path net (scope.map (Label.inFile path)) name) (g.addCall scope name) := by
  refine ⟨?_, h.shaped.addCall hscope name⟩
  cases scope with
  | none => exact h.written
  | some f => exact (h.hang (hscope f rfl).1 (isProper_of_ne (by simp)) .calls).symm

theorem visit (h : Draws path net g) (hscope : g.Encloses scope) (lang : Language) (source : Source) (n : Node) :
    Draws path (visit path lang source net (scope.map (Label.inFile path)) n) (Graph.visit lang source g (scope, n)) := by
  rw [Network.visit, scopeAt, Graph.visit]
  cases hdefined : defined? lang source n with
  | some e =>
    -- nothing else is read off this node, so it does not show that the scope is another one by now
    obtain ⟨himported, hcalled⟩ := unused_of_defined hdefined
    rw [himported, hcalled]
    exact h.addDefinition hscope (isDefinition_of_defined hdefined)
  | none =>
    cases imported? lang source n with
    | none =>
      cases called? lang source n with
      | none => exact h
      | some name => exact h.addCall hscope name
    | some text =>
      have himport := h.addImport hscope text
      cases called? lang source n with
      | none => exact himport
      | some name => exact himport.addCall (hscope.mono (subset_labels_addImport g scope text)) name

end Draws

theorem scopeAt_map (path : String) (lang : Language) (source : Source) (scope : Option Label) (n : Node) :
    scopeAt path lang source (scope.map (Label.inFile path)) n = (innerScope lang source scope n).map (Label.inFile path) := by
  rw [scopeAt, innerScope]
  cases defined? lang source n with
  | none => rfl
  | some e => cases hscope : e.kind.isScope <;> simp [hscope]

mutual

/-- **A tree below a scope, drawn into a network.** -/
theorem Draws.walk {path : String} {lang : Language} {source : Source} {net : Network} {g : Graph} {scope : Option Label}
    (h : Draws path net g) (hscope : g.Encloses scope) : ∀ n : Node,
    Draws path (walk path lang source net (scope.map (Label.inFile path)) n)
      ((withScope lang source scope n).foldl (Graph.visit lang source) g)
  | ⟨kind, start, stop, row, endRow, field, children⟩ => by
    rw [Network.walk, withScope, List.foldl_cons, scopeAt_map]
    exact (h.visit hscope lang source _).walkAll (hscope.visit lang source _) children

theorem Draws.walkAll {path : String} {lang : Language} {source : Source} {net : Network} {g : Graph} {scope : Option Label}
    (h : Draws path net g) (hscope : g.Encloses scope) : ∀ ns : List Node,
    Draws path (walkAll path lang source net (scope.map (Label.inFile path)) ns)
      ((withScopeAll lang source scope ns).foldl (Graph.visit lang source) g)
  | [] => by
    rw [Network.walkAll, withScopeAll]
    exact h
  | n :: rest => by
    rw [Network.walkAll, withScopeAll, List.foldl_append]
    exact (h.walk hscope n).walkAll (hscope.mono (subset_labels_foldl lang source _ g)) rest

end

/-- **A tree drawn into a network is its graph written out.** -/
theorem draws_ofTree (path : String) (lang : Language) (source : Source) (root : Node) :
    Draws path (ofTree path lang source root) (Graph.ofTree lang source root) := by
  have hstart : Draws path empty Graph.empty := ⟨rfl, .empty⟩
  have hnone : Graph.empty.Encloses none := fun f hf => by cases hf
  exact hstart.walk hnone root

/-- Two Go types of one name are one node, of the later type. -/
example : ofTree "a.go" .go "T" ⟨"source_file", 0, 1, 0, 0, none,
      ["struct_type", "interface_type"].map fun kind => ⟨"type_spec", 0, 1, 0, 0, none,
        [⟨"type_identifier", 0, 1, 0, 0, some "name", []⟩, ⟨kind, 1, 1, 0, 0, some "type", []⟩]⟩⟩ =
    ⟨[("a.go::type::T", [("type", "interface_type"), ("name", "T")])], []⟩ := by
  decide +kernel

/-! ## The shape of a network -/

def typeOf (net : Network) (label : String) : Option String := (net.nodes.lookup label).bind (List.lookup "type")

def IsFunction (net : Network) (label : String) : Prop :=
  net.typeOf label = some "function" ∨ net.typeOf label = some "method"

/-- What an edge joins, and the type that it has therefore. -/
structure Joins (net : Network) (file source target type : String) : Prop where
  starts : net.has source = true ∧ (net.IsFunction source ∨ source = file)
  ends : net.has target = true ∧ target ≠ file
  calls : type = "calls" ↔ net.typeOf target = some "call"
  imports : type = "imports" ↔ source = file
  uses : type = "uses" ↔ net.IsFunction source ∧ net.typeOf target = some "import"
  contains : type = "contains" ↔ net.typeOf target ≠ some "call" ∧ source ≠ file ∧
    ¬ (net.IsFunction source ∧ net.typeOf target = some "import")
  fromFile : source = file → net.typeOf target = some "import"

/-- A type, with a text if the type is that of imports and else with a name; only the file has neither. -/
def IsDescribed (attributes : List (String × String)) : Prop :=
  ∃ type, attributes.lookup "type" = some type ∧ (type = "import" → ∃ text, attributes.lookup "text" = some text) ∧
    (type ≠ "import" → type ≠ "file" → ∃ name, attributes.lookup "name" = some name)

structure IsShaped (net : Network) (file : String) : Prop where
  distinct : (net.nodes.map Prod.fst).Nodup
  described : ∀ n ∈ net.nodes, IsDescribed n.2 ∧ (n.2.lookup "type" = some "file" ↔ n.1 = file)
  joins : ∀ e ∈ net.edges, net.Joins file e.1.1 e.1.2 e.2
  anchored : net.has file = true ↔ ∃ e ∈ net.edges, e.1.1 = file

theorem name_inj (k k' : EntityKind) : k.name = k'.name ↔ k = k' := by
  cases k <;> cases k' <;> decide

theorem isScope_iff (k : EntityKind) : k.isScope = true ↔ k.name = "function" ∨ k.name = "method" := by
  cases k <;> decide

theorem isDescribed_attributes (e : Entity) : IsDescribed e.attributes := by
  refine ⟨e.kind.name, rfl, fun himport => ⟨e.name, ?_⟩, fun himport hfile => ⟨e.name, ?_⟩⟩
  · have hkind : e.kind = .importLine := (name_inj e.kind .importLine).1 himport
    rw [Entity.attributes, hkind]
    rfl
  · have hdetail : e.kind.detail = some "name" := by
      revert himport hfile
      cases e.kind <;> simp [EntityKind.name, EntityKind.detail]
    rw [Entity.attributes, hdetail]
    rfl

theorem lookup_of_mem {ν : Type} {key : String} {value : ν} : ∀ {entries : List (String × ν)},
    (entries.map Prod.fst).Nodup → (key, value) ∈ entries → entries.lookup key = some value
  | entry :: rest, hnodup, hmem => by
    rw [List.map_cons, List.nodup_cons] at hnodup
    rcases List.mem_cons.1 hmem with rfl | hmem
    · exact List.lookup_cons_self
    · have hne : key ≠ entry.1 := fun heq => hnodup.1 (heq ▸ List.mem_map_of_mem hmem)
      rw [List.lookup_cons, beq_eq_false_iff_ne.2 hne]
      exact lookup_of_mem hnodup.2 hmem

theorem typeOf_written (hnodup : (g.nodes.map fun e => e.label.inFile path).Nodup) {e : Entity} (he : e ∈ g.nodes) :
    (g.written path).typeOf (e.label.inFile path) = some e.kind.name := by
  have hlookup : (g.written path).nodes.lookup (e.label.inFile path) = some e.attributes := by
    refine lookup_of_mem ?_ (List.mem_map.2 ⟨e, he, rfl⟩)
    rw [Graph.written, List.map_map]
    exact hnodup
  rw [typeOf, hlookup]
  rfl

/-- The ends of an edge are nodes, of the kinds that go with its relation. -/
theorem ends_cases (h : g.IsSound) {x : Edge} (hx : x ∈ g.edges) : ∃ s ∈ g.nodes, ∃ t ∈ g.nodes,
    s.label = x.source ∧ t.label = x.target ∧
      ((s.kind.isScope = true ∧ t.kind.isDefinition = true ∧ x.relation = .contains) ∨
        (s.kind.isScope = true ∧ t.kind = .importLine ∧ x.relation = .uses) ∨
        (s.kind = .file ∧ t.kind = .importLine ∧ x.relation = .imports) ∨
        (s.kind.isScope = true ∧ t.kind = .call ∧ x.relation = .calls)) := by
  obtain ⟨hsource, htarget⟩ := h.ends x hx
  obtain ⟨s, hs, hslabel⟩ := List.mem_map.1 hsource
  obtain ⟨t, ht, htlabel⟩ := List.mem_map.1 htarget
  refine ⟨s, hs, t, ht, hslabel, htlabel, ?_⟩
  have hscope {f : Label} (hf : f.IsScope) (hlabel : s.label = f) : s.kind.isScope = true := by
    obtain ⟨e, rfl, he⟩ := hf
    exact (eq_of_role _ rfl (congrArg Label.role hlabel)).trans he
  cases h.hangs x hx with
  | contains hf he => exact .inl ⟨hscope hf hslabel, (eq_of_role _ rfl (congrArg Label.role htlabel)).trans he, rfl⟩
  | uses hf text => exact .inr (.inl ⟨hscope hf hslabel, (role_eq_iff rfl _).1 (congrArg Label.role htlabel), rfl⟩)
  | imports text =>
    have hfile := (role_eq_file_iff s.kind).1 (congrArg Label.role hslabel)
    exact .inr (.inr (.inl ⟨hfile, (role_eq_iff rfl _).1 (congrArg Label.role htlabel), rfl⟩))
  | calls hf name => exact .inr (.inr (.inr ⟨hscope hf hslabel, (role_eq_iff rfl _).1 (congrArg Label.role htlabel), rfl⟩))

theorem inFile_eq_file_iff {e : Entity} (he : e.IsProper) :
    e.label.inFile path = anchor.label.inFile path ↔ e.kind = .file := by
  rw [inFile_inj path he fun _ => rfl]
  constructor
  · exact fun hlabel => (role_eq_file_iff e.kind).1 (congrArg Label.role hlabel)
  · intro hfile
    rw [he hfile]

theorem joins_written (h : g.IsSound) (hnodup : (g.nodes.map fun e => e.label.inFile path).Nodup) {x : Edge}
    (hx : x ∈ g.edges) : (g.written path).Joins (anchor.label.inFile path) (x.source.inFile path) (x.target.inFile path)
      x.relation.name := by
  obtain ⟨s, hs, t, ht, hsource, htarget, hcases⟩ := ends_cases h hx
  rw [← hsource, ← htarget]
  -- whatever is asked about the ends is asked about their kinds
  have hstarts : (g.written path).has (s.label.inFile path) = true := has_written (List.mem_map_of_mem hs)
  have hends : (g.written path).has (t.label.inFile path) = true := has_written (List.mem_map_of_mem ht)
  have hfunction : (g.written path).IsFunction (s.label.inFile path) ↔ s.kind.isScope = true := by
    rw [IsFunction, typeOf_written hnodup hs, isScope_iff, Option.some.injEq, Option.some.injEq]
  have htype (kind : EntityKind) : (g.written path).typeOf (t.label.inFile path) = some kind.name ↔ t.kind = kind := by
    rw [typeOf_written hnodup ht, Option.some.injEq, name_inj]
  have hcall : (g.written path).typeOf (t.label.inFile path) = some "call" ↔ t.kind = .call := htype .call
  have himport : (g.written path).typeOf (t.label.inFile path) = some "import" ↔ t.kind = .importLine := htype .importLine
  have hfile : s.label.inFile path = anchor.label.inFile path ↔ s.kind = .file := inFile_eq_file_iff (h.proper s hs)
  have hfile' : t.label.inFile path = anchor.label.inFile path ↔ t.kind = .file := inFile_eq_file_iff (h.proper t ht)
  have hscope : s.kind.isScope = true → s.kind ≠ .file := by cases s.kind <;> decide
  have hdefinition : t.kind.isDefinition = true → t.kind ≠ .file ∧ t.kind ≠ .importLine ∧ t.kind ≠ .call := by
    cases t.kind <;> decide
  rcases hcases with ⟨hs', ht', hrelation⟩ | ⟨hs', ht', hrelation⟩ | ⟨hs', ht', hrelation⟩ | ⟨hs', ht', hrelation⟩
  · obtain ⟨htfile, htimport, htcall⟩ := hdefinition ht'
    constructor <;> simp [hstarts, hends, hfunction, hcall, himport, hfile, hfile', hrelation, Relation.name, hs', hscope hs',
      htfile, htimport, htcall]
  · constructor <;> simp [hstarts, hends, hfunction, hcall, himport, hfile, hfile', hrelation, Relation.name, hs', hscope hs',
      ht']
  · constructor <;> simp [hstarts, hends, hfunction, hcall, himport, hfile, hfile', hrelation, Relation.name, hs', ht',
      EntityKind.isScope]
  · constructor <;> simp [hstarts, hends, hfunction, hcall, himport, hfile, hfile', hrelation, Relation.name, hs', hscope hs',
      ht']

theorem isShaped_written (h : g.IsShaped) (hnodup : (g.nodes.map fun e => e.label.inFile path).Nodup) :
    (g.written path).IsShaped (anchor.label.inFile path) where
  distinct := by
    rw [Graph.written, List.map_map]
    exact hnodup
  described n hn := by
    obtain ⟨e, he, rfl⟩ := List.mem_map.1 hn
    have htype : e.attributes.lookup "type" = some e.kind.name := rfl
    have hname : e.kind.name = "file" ↔ e.kind = .file := name_inj e.kind .file
    refine ⟨isDescribed_attributes e, ?_⟩
    rw [htype, Option.some.injEq, inFile_eq_file_iff (h.proper e he), hname]
  joins edge hedge := by
    obtain ⟨x, hx, rfl⟩ := List.mem_map.1 hedge
    exact joins_written h.toIsSound hnodup hx
  anchored := by
    rw [has_written_iff h.toIsSound fun _ => rfl]
    constructor
    · intro hanchor
      obtain ⟨x, hx, hsource⟩ := h.anchored hanchor
      exact ⟨_, List.mem_map.2 ⟨x, hx, rfl⟩, congrArg (Label.inFile path) hsource⟩
    · rintro ⟨edge, hedge, hfile⟩
      obtain ⟨x, hx, rfl⟩ := List.mem_map.1 hedge
      have hhas : (g.written path).has (x.source.inFile path) = true := has_written (h.ends x hx).1
      rw [show x.source.inFile path = anchor.label.inFile path from hfile] at hhas
      exact (has_written_iff h.toIsSound fun _ => rfl).1 hhas

/-! ## Reading it for the index -/

theorem namesOf_written (kind : EntityKind) (hkind : kind.detail = some "name") :
    (g.written path).namesOf kind.name = .ok (g.namesOf kind) := by
  have hnodes : ((g.written path).nodes.filter fun n => n.2.lookup "type" = some kind.name) =
      (g.nodes.filter fun e => e.kind = kind).map fun e => (e.label.inFile path, e.attributes) := by
    rw [Graph.written, List.filter_map]
    congr 1
    refine List.filter_congr fun e _ => ?_
    have htype : e.attributes.lookup "type" = some e.kind.name := rfl
    simp [htype, name_inj]
  have hname {e : Entity} (he : e.kind = kind) : e.attributes.lookup "name" = some e.name := by
    rw [Entity.attributes, he, hkind]
    rfl
  have hnames : (g.nodes.filter fun e => e.kind = kind).map (·.name) =
      ((g.nodes.filter fun e => e.kind = kind).map fun e => (e.label.inFile path, e.attributes)).map fun n =>
        (n.2.lookup "name").getD "" := by
    rw [List.map_map]
    refine List.map_congr_left fun e he => ?_
    have hkind : e.kind = kind := by simpa using (List.mem_filter.1 he).2
    rw [Function.comp_apply, hname hkind]
    rfl
  rw [namesOf, hnodes, Graph.namesOf, hnames]
  refine Run.mapM_eq_ok fun n hn => ?_
  obtain ⟨e, he, rfl⟩ := List.mem_map.1 hn
  have hkind : e.kind = kind := by simpa using (List.mem_filter.1 he).2
  simp only [hname hkind]
  rfl

theorem digest_written (path : String) (g : Graph) (key : Json) :
    (g.written path).digest key = .ok (Store.GraphDigest.ofGraph key g) := by
  have hfunctions : (g.written path).namesOf "function" = _ := namesOf_written .function rfl
  have hclasses : (g.written path).namesOf "class" = _ := namesOf_written .classType rfl
  have hcalls : (g.written path).namesOf "call" = _ := namesOf_written .call rfl
  rw [digest, hfunctions, hclasses, hcalls, Graph.written, List.length_map, List.length_map]
  rfl

/-- **The shape of a graph.**  A tree drawn into a network, where labels that clash overwrite each other and ends that are
missing are made up, is the graph of the tree written out.  Every node is described; every edge starts at a function or at
the file, never ends there, and has the type that goes with its ends; the file is there just when an edge starts at it.  So
the index finds every name that it asks for. -/
theorem network_shaped (path : String) (lang : Language) (source : Source) (root : Node) (svc : Store.Service) (key : Json) :
    let net := ofTree path lang source root
    let g := Graph.ofTree lang source root
    net = g.written path ∧ net.IsShaped (path ++ "::file") ∧ net.digest key = .ok (Store.GraphDigest.ofGraph key g) ∧
      net.index svc key = Store.indexGraph svc key g := by
  intro net g
  have hdraws := draws_ofTree path lang source root
  have hwritten : net = g.written path := hdraws.written
  have hfile : path ++ "::file" = anchor.label.inFile path := by
    rw [show "::file" = "::" ++ "file" from rfl, ← String.append_assoc]
    rfl
  have hdigest : net.digest key = .ok (Store.GraphDigest.ofGraph key g) := by
    rw [hwritten, digest_written]
  refine ⟨hwritten, ?_, hdigest, ?_⟩
  · rw [hfile, hwritten]
    exact isShaped_written hdraws.shaped (nodup_inFile lang source root path)
  · rw [index, hdigest]
    rfl

end Network
end PullReview
