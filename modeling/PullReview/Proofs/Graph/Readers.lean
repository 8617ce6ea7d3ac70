import PullReview.Graph.Insight
import PullReview.Proofs.Graph.Network
import PullReview.Proofs.Store.Points
/-!
# Two readers of a graph

A graph is read twice: for a report, which counts its nodes and goes over them one by one (`Network.tally`), and for the
index, which lists their names.  The report leaves out names that are empty or were there before, the index takes all.
Still they agree (`readers_agree`): in the graph of a tree no two nodes of one kind have the same name (`nodup_namesOf`),
and every call has a name (`name_of_call`).
-/
namespace PullReview
namespace Graph

/-! ## Names -/

theorem plainCallee_ne_empty {s name : String} (h : plainCallee? s = some name) : name ≠ "" := by
  unfold plainCallee? at h
  dsimp only at h
  split at h
  · rename_i hword
    rintro rfl
    -- nothing is left of an empty name, and that is no word
    rw [String.ofList_eq_empty_iff.1 (Option.some.inj h)] at hword
    cases hword
  · cases h

theorem callee_ne_empty {s name : String} (h : callee? s = some name) : name ≠ "" := by
  unfold callee? at h
  dsimp only at h
  split at h
  · cases h
  · rename_i hne
    exact Option.some.inj h ▸ hne

theorem called_ne_empty {lang : Language} {source : Source} {n : Node} {name : String}
    (h : called? lang source n = some name) : name ≠ "" := by
  unfold called? at h
  split at h
  · obtain ⟨s, -, hs⟩ := Option.bind_eq_some_iff.1 h
    exact plainCallee_ne_empty hs
  · obtain ⟨s, -, hs⟩ := Option.bind_eq_some_iff.1 h
    exact callee_ne_empty hs
  · obtain ⟨s, -, hs⟩ := Option.bind_eq_some_iff.1 h
    exact callee_ne_empty hs
  · cases h

section Tree

variable (lang : Language) (source : Source) (root : Node)

/-- **Every call has a name.** -/
theorem name_of_call {e : Entity} (he : e ∈ (ofTree lang source root).nodes) (hkind : e.kind = .call) : e.name ≠ "" := by
  rw [nodes_ofTree] at he
  obtain ⟨seen, -, hmem⟩ := List.mem_flatMap.1 (mem_putAll he)
  rcases List.mem_append.1 hmem with hdefined | hused
  · have hdefinition := isDefinition_of_defined (Option.mem_toList.1 hdefined)
    rw [hkind] at hdefinition
    cases hdefinition
  · rcases used_cases hused with himport | rfl | ⟨-, hcalled⟩
    · simp [hkind] at himport
    · cases hkind
    · exact called_ne_empty hcalled

/-- **No two nodes of one kind have the same name**, since their labels would be the same. -/
theorem nodup_namesOf (kind : EntityKind) : ((ofTree lang source root).namesOf kind).Nodup := by
  have hlabels := nodup_labels lang source root
  refine List.Nodup.map_on (fun e he e' he' hname => ?_) (hlabels.of_map.filter _)
  rw [List.mem_filter, decide_eq_true_eq] at he he'
  refine List.inj_on_of_nodup_map hlabels he.1 he'.1 ?_
  rw [Entity.label, Entity.label, he.2, he'.2, hname]

theorem calls_ofTree : distinct (((ofTree lang source root).namesOf .call).filter (· ≠ "")) =
    (ofTree lang source root).namesOf .call := by
  have hnamed : ((ofTree lang source root).namesOf .call).filter (· ≠ "") = (ofTree lang source root).namesOf .call := by
    refine List.filter_eq_self.2 fun name hname => ?_
    obtain ⟨e, he, rfl⟩ := List.mem_map.1 hname
    rw [List.mem_filter, decide_eq_true_eq] at he
    exact decide_eq_true (name_of_call lang source root he.1 he.2)
  rw [hnamed, distinct_of_nodup (nodup_namesOf lang source root .call)]

end Tree

/-- An empty graph has no edges either, so nothing that is counted in it is missed. -/
theorem insight_getD {g : Graph} (h : g.IsSound) : g.insight?.getD {} =
    { functionCount := (g.namesOf .function).length
      classCount := (g.namesOf .classType).length
      importCount := (g.namesOf .importLine).length
      calls := distinct ((g.namesOf .call).filter (· ≠ ""))
      relationships := g.edges.length } := by
  rw [insight?]
  split <;> rename_i hempty
  · have hnodes : g.nodes = [] := List.isEmpty_iff.1 hempty
    have hedges : g.edges = [] := by
      refine List.eq_nil_iff_forall_not_mem.2 fun x hx => ?_
      have hsource := (h.ends x hx).1
      rw [labels, hnodes] at hsource
      cases hsource
    simp [namesOf, hnodes, hedges, distinct]
  · rfl

end Graph

namespace Network

open PullReview.Graph

/-! ## Going over the nodes -/

theorem tally_attributes (i : Insight) (e : Entity) : tally i e.attributes =
    match e.kind with
    | .function => { i with functionCount := i.functionCount + 1 }
    | .classType => { i with classCount := i.classCount + 1 }
    | .importLine => { i with importCount := i.importCount + 1 }
    | .call => if e.name = "" ∨ e.name ∈ i.calls then i else { i with calls := i.calls ++ [e.name] }
    | _ => i := by
  obtain ⟨kind, name⟩ := e
  cases kind <;> rfl

theorem namesOf_concat (nodes : List Entity) (edges : List Edge) (e : Entity) (kind : EntityKind) :
    Graph.namesOf ⟨nodes ++ [e], edges⟩ kind =
      Graph.namesOf ⟨nodes, edges⟩ kind ++ if e.kind = kind then [e.name] else [] := by
  unfold Graph.namesOf
  rw [List.filter_append, List.map_append]
  by_cases hkind : e.kind = kind <;> simp [hkind]

/-- **Going over the nodes of a graph counts the names of each kind**, and of the calls it keeps each name once. -/
theorem foldl_tally (edges : List Edge) (nodes : List Entity) : (nodes.map Entity.attributes).foldl tally {} =
    { functionCount := (Graph.namesOf ⟨nodes, edges⟩ .function).length
      classCount := (Graph.namesOf ⟨nodes, edges⟩ .classType).length
      importCount := (Graph.namesOf ⟨nodes, edges⟩ .importLine).length
      calls := distinct ((Graph.namesOf ⟨nodes, edges⟩ .call).filter (· ≠ "")) } := by
  induction nodes using List.reverseRecOn with
  | nil => rfl
  | append_singleton nodes e ih =>
    rw [List.map_append, List.map_singleton, List.foldl_append, ih, List.foldl_cons, List.foldl_nil, tally_attributes]
    simp only [namesOf_concat]
    cases hkind : e.kind with
    | call =>
      by_cases hname : e.name = ""
      · simp [hname]
      · by_cases hold : e.name ∈ Graph.namesOf ⟨nodes, edges⟩ .call <;>
          simp [hname, hold, distinct_concat, mem_distinct_iff]
    | _ => simp

theorem insight_written (path : String) (g : Graph) : (g.written path).insight? = g.insight? := by
  have hattributes : (g.written path).nodes.map Prod.snd = g.nodes.map Entity.attributes := by
    rw [Graph.written, List.map_map]
    rfl
  rw [insight?, hattributes, foldl_tally g.edges, Graph.insight?]
  simp [Graph.written]

/-! ## Both readers -/

theorem index_written (path : String) (g : Graph) (svc : Store.Service) (key : Json) :
    (g.written path).index svc key = Store.indexGraph svc key g := by
  rw [index, digest_written]
  rfl

/-- **What the index leaves in the store**: one point with all that it read, or nothing when its text is not taken. -/
theorem perform_indexGraph (svc : Store.Service) (key : Json) (g : Graph) (s : Session Store) :
    let payload := (Store.GraphDigest.ofGraph key g).payload
    ∃ text id t, Store.graphEntry key g = .ok (text, payload) ∧
      (Store.indexGraph svc key g).perform s = ((Store.taken svc .codeGraphs text).map fun _ => id, t) ∧
      t.state.points = s.state.points ++
        if (Store.taken svc .codeGraphs text).isOk then [(.codeGraphs, payload)] else [] := by
  obtain ⟨text, hentry⟩ := Store.graphEntry_eq_ok key g
  obtain ⟨id, t, hperform, -, hpoints⟩ := Store.perform_addEntry svc .codeGraphs (Store.graphEntry key g) s
  rw [hentry, Store.stored] at hperform hpoints
  refine ⟨text, id, t, hentry, ?_, ?_⟩
  · rw [Store.indexGraph_eq, hentry, hperform]
    cases Store.taken svc .codeGraphs text <;> rfl
  · rw [hpoints]
    cases Store.taken svc .codeGraphs text <;> rfl

/-- A report counts what a payload lists, no name twice.  A report without the number counts as none. -/
def Counts (report payload : Json) (number list : String) : Prop :=
  ∃ names : List String, names.Nodup ∧ payload.get? list = some (.ofTexts names) ∧
    report.field number (.int 0) = .ok (.int names.length)

/-- A report about a graph and the payload of a point for it say the same. -/
structure Agree (report payload : Json) : Prop where
  functions : Counts report payload "function_count" "functions"
  classes : Counts report payload "class_count" "classes"
  calls : ∃ names : List String, names.Nodup ∧ payload.get? "calls" = some (.ofTexts names) ∧
    report.field "function_calls" (.list []) = .ok (.ofTexts names)
  edges : ∃ n : Nat, payload.get? "edge_count" = some (.int n) ∧ report.field "relationships" (.int 0) = .ok (.int n)

theorem fields_insightDocument (g : Graph) :
    let i := g.insight?.getD {}
    g.insightDocument.field "function_count" (.int 0) = .ok (.int i.functionCount) ∧
      g.insightDocument.field "class_count" (.int 0) = .ok (.int i.classCount) ∧
      g.insightDocument.field "function_calls" (.list []) = .ok (.ofTexts i.calls) ∧
      g.insightDocument.field "relationships" (.int 0) = .ok (.int i.relationships) := by
  unfold insightDocument
  cases g.insight? <;> exact ⟨rfl, rfl, rfl, rfl⟩

theorem agree_ofTree (lang : Language) (source : Source) (root : Node) (key : Json) :
    let g := Graph.ofTree lang source root
    Agree g.insightDocument (Store.GraphDigest.ofGraph key g).payload := by
  intro g
  have hsound : g.IsSound := (draws_ofTree "" lang source root).shaped.toIsSound
  obtain ⟨hfunctions, hclasses, hcalls, hedges⟩ := fields_insightDocument g
  rw [insight_getD hsound] at hfunctions hclasses hcalls hedges
  rw [calls_ofTree] at hcalls
  exact
    { functions := ⟨_, nodup_namesOf lang source root .function, rfl, hfunctions⟩
      classes := ⟨_, nodup_namesOf lang source root .classType, rfl, hclasses⟩
      calls := ⟨_, nodup_namesOf lang source root .call, rfl, hcalls⟩
      edges := ⟨_, rfl, hedges⟩ }

/-- **The two readers of a graph agree.**  The network of a tree, whatever the path of its file, is read as the graph is by
both of them.  What the report tells about functions, classes, calls and edges is what stands in the payload that the index
leaves in the store. -/
theorem readers_agree (path : String) (lang : Language) (source : Source) (root : Node) (svc : Store.Service) (key : Json)
    (s : Session Store) :
    let net := ofTree path lang source root
    let g := Graph.ofTree lang source root
    let payload := (Store.GraphDigest.ofGraph key g).payload
    net.insight? = g.insight? ∧ net.index svc key = Store.indexGraph svc key g ∧ Agree g.insightDocument payload ∧
      ∃ text id t, Store.graphEntry key g = .ok (text, payload) ∧
        (Store.indexGraph svc key g).perform s = ((Store.taken svc .codeGraphs text).map fun _ => id, t) ∧
        t.state.points = s.state.points ++
          if (Store.taken svc .codeGraphs text).isOk then [(.codeGraphs, payload)] else [] := by
  intro net g payload
  have hwritten : net = g.written path := (draws_ofTree path lang source root).written
  refine ⟨?_, ?_, agree_ofTree lang source root key, perform_indexGraph svc key g s⟩
  · rw [hwritten, insight_written]
  · rw [hwritten, index_written]

end Network
end PullReview
