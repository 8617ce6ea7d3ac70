import Mathlib.Data.Finset.Card
import PullReview.Proofs.Graph.Nodes
/-!
# Definitions, recorded and drawn

The functions and classes of a tree are recorded one by one, and its graph draws them as nodes, one for each name.  Both go
by rules of their own for each language.  What they have in common is a table: which nodes of a tree define what
(`Construct.nodeKind?`).  Both sets of rules agree with it (`drawnName_eq`, `functionName_eq`, `className_eq`), so the graph
draws each recorded name once, in the order of the records (`names_drawn`).
-/
namespace PullReview
namespace Graph

/-- What is both recorded and drawn. -/
inductive Construct where
  | function
  | method
  | plainClass
  /-- A struct or an interface of Go.  The two share their names. -/
  | namedType
  | struct
  | trait
deriving DecidableEq, Repr

namespace Construct

/-- The kind of the nodes that define it, in a language that has it. -/
def nodeKind? : Construct → Language → Option String
  | .function, .python => some "function_definition"
  | .plainClass, .python => some "class_definition"
  | .function, .go => some "function_declaration"
  | .method, .go => some "method_declaration"
  | .namedType, .go => some "type_spec"
  | .function, .rust => some "function_item"
  | .struct, .rust => some "struct_item"
  | .trait, .rust => some "trait_item"
  | _, _ => none

def isIn (c : Construct) (lang : Language) : Bool := (c.nodeKind? lang).isSome

/-- The node defines one.  A type of Go has to be a struct or an interface. -/
def isDefinedAt (c : Construct) (lang : Language) (n : Node) : Bool :=
  c.nodeKind? lang == some n.kind && (c != .namedType || n.goTypeKind?.isSome)

def nameAt? (c : Construct) (lang : Language) (source : Source) (n : Node) : Option String :=
  if c.isDefinedAt lang n then n.fieldText? source "name" else none

/-! ## Records -/

def coversFunction : Construct → FunctionKind → Bool
  | .function, .function => true
  | .method, .method _ => true
  | _, _ => false

def coversClass : Construct → ClassKind → Bool
  | .plainClass, .plain => true
  | .namedType, .struct => true
  | .namedType, .interface => true
  | .struct, .struct => true
  | .trait, .trait => true
  | _, _ => false

def recorded (c : Construct) (lang : Language) (source : Source) (root : Node) : List String :=
  match c with
  | .function | .method => ((root.functions lang source).filter fun f => c.coversFunction f.kind).map (·.name)
  | _ => ((root.classes lang source).filter fun r => c.coversClass r.kind).map (·.name)

section

variable {lang : Language} {c : Construct} (hin : c.isIn lang = true) (source : Source) (n : Node)

include hin

theorem functionName_eq (hc : c = .function ∨ c = .method) :
    ((n.function? lang source).filter fun f => c.coversFunction f.kind).map (·.name) = c.nameAt? lang source n := by
  have hname : ((n.function? lang source).filter fun f => c.coversFunction f.kind).map (·.name) =
      (n.functionKind? lang source).bind fun kind =>
        if c.coversFunction kind then n.fieldText? source "name" else none := by
    unfold Node.function?
    cases n.functionKind? lang source with
    | none => rfl
    | some kind => cases n.fieldText? source "name" <;> cases hp : c.coversFunction kind <;> simp [hp]
  rw [hname]
  unfold nameAt? isDefinedAt Node.functionKind?
  split
  case h_7 =>
    rw [Option.bind_none, if_neg]
    unfold nodeKind?
    grind
  all_goals
    rename_i hkind
    rcases hc with rfl | rfl <;> simp_all [isIn, nodeKind?, coversFunction]

theorem className_eq (hc : c ≠ .function) (hc' : c ≠ .method) :
    ((n.class? lang source).filter fun r => c.coversClass r.kind).map (·.name) = c.nameAt? lang source n := by
  have hname : ((n.class? lang source).filter fun r => c.coversClass r.kind).map (·.name) =
      ((n.className? lang source).filter fun found => c.coversClass found.2).map Prod.fst := by
    unfold Node.class?
    cases n.className? lang source with
    | none => rfl
    | some found => cases hp : c.coversClass found.2 <;> simp [Option.filter_some, hp]
  have hnamed (kind : ClassKind) :
      (((n.fieldText? source "name").map fun name => (name, kind)).filter fun found => c.coversClass found.2).map
        Prod.fst = if c.coversClass kind then n.fieldText? source "name" else none := by
    cases n.fieldText? source "name" <;> cases hp : c.coversClass kind <;> simp [Option.filter_some, hp]
  rw [hname]
  unfold nameAt? isDefinedAt Node.className?
  dsimp only
  split
  case h_4 hkind =>
    unfold Node.goTypeKind?
    generalize (n.child? "type").map (·.kind) = type
    split
    case h_3 => cases c <;> simp [nodeKind?, hkind]
    all_goals
      rw [Option.bind_some, hnamed]
      cases c <;> simp_all [isIn, nodeKind?, coversClass]
  case h_6 hkind =>
    -- an implementation is recorded under a name of its own, and as nothing that is also drawn
    unfold Node.implementation?
    split
    all_goals cases c <;> simp_all [Option.filter_some, isIn, nodeKind?, coversClass]
  case h_8 =>
    rw [Option.filter_none, Option.map_none, if_neg]
    unfold nodeKind?
    grind
  all_goals
    rename_i hkind
    rw [hnamed]
    cases c <;> simp_all [isIn, nodeKind?, coversClass]

theorem recorded_eq (root : Node) :
    c.recorded lang source root = root.preorder.filterMap (c.nameAt? lang source) := by
  have hfunctions (hc : c = .function ∨ c = .method) :
      ((root.functions lang source).filter fun f => c.coversFunction f.kind).map (·.name) =
        root.preorder.filterMap (c.nameAt? lang source) := by
    rw [Node.functions, List.filter_filterMap, List.map_filterMap]
    exact List.filterMap_congr fun n _ => functionName_eq hin source n hc
  have hclasses (hc : c ≠ .function) (hc' : c ≠ .method) :
      ((root.classes lang source).filter fun r => c.coversClass r.kind).map (·.name) =
        root.preorder.filterMap (c.nameAt? lang source) := by
    rw [Node.classes, List.filter_filterMap, List.map_filterMap]
    exact List.filterMap_congr fun n _ => className_eq hin source n hc hc'
  cases c with
  | function => exact hfunctions (.inl rfl)
  | method => exact hfunctions (.inr rfl)
  | plainClass => exact hclasses (by decide) (by decide)
  | namedType => exact hclasses (by decide) (by decide)
  | struct => exact hclasses (by decide) (by decide)
  | trait => exact hclasses (by decide) (by decide)

end

/-! ## Nodes -/

def kinds : Construct → List EntityKind
  | .function => [.function]
  | .method => [.method]
  | .plainClass => [.classType]
  | .namedType => [.structType, .interfaceType]
  | .struct => [.struct]
  | .trait => [.trait]

def word : Construct → String
  | .function => "function"
  | .method => "method"
  | .plainClass => "class"
  | .namedType => "type"
  | .struct => "struct"
  | .trait => "trait"

theorem mem_kinds_iff (c : Construct) (kind : EntityKind) : kind ∈ c.kinds ↔ kind.role = c.word := by
  cases c <;> cases kind <;> decide

theorem drawnName_eq (c : Construct) (lang : Language) (source : Source) (n : Node) :
    ((defined? lang source n).filter fun e => e.kind ∈ c.kinds).map (·.name) = c.nameAt? lang source n := by
  have hnamed (kind : EntityKind) (field : String) :
      (((n.fieldText? source field).map fun name => Entity.mk kind name).filter fun e => e.kind ∈ c.kinds).map (·.name) =
        if kind ∈ c.kinds then n.fieldText? source field else none := by
    cases n.fieldText? source field <;> by_cases hk : kind ∈ c.kinds <;> simp [hk]
  unfold nameAt? isDefinedAt defined?
  dsimp only
  split
  case h_5 hkind =>
    unfold Node.goTypeKind?
    generalize (n.child? "type").map (·.kind) = type
    split
    case h_3 => cases c <;> simp [nodeKind?, hkind]
    all_goals
      rw [hnamed]
      cases c <;> simp [kinds, nodeKind?, hkind]
  case h_10 =>
    rw [Option.filter_none, Option.map_none, if_neg]
    unfold nodeKind?
    grind
  all_goals
    rename_i hkind
    rw [hnamed]
    cases c <;> simp [kinds, nodeKind?, hkind]

end Construct

def drawn (g : Graph) (c : Construct) : List Entity := g.nodes.filter fun e => e.kind ∈ c.kinds

theorem names_mentioned (c : Construct) (lang : Language) (source : Source) (seen : Option Label × Node) :
    ((mentioned lang source seen).filter fun e => e.kind ∈ c.kinds).map (·.name) =
      (c.nameAt? lang source seen.2).toList := by
  -- imports and calls are no definitions
  have hused : (used lang source seen).filter (fun e => e.kind ∈ c.kinds) = [] := by
    have hothers : EntityKind.importLine ∉ c.kinds ∧ EntityKind.file ∉ c.kinds ∧ EntityKind.call ∉ c.kinds := by
      cases c <;> decide
    refine List.filter_eq_nil_iff.2 fun e he => ?_
    rcases kind_of_used he with h | rfl | h
    · simp [h, hothers.1]
    · simp [anchor, hothers.2.1]
    · simp [h, hothers.2.2]
  rw [mentioned, List.filter_append, hused, List.append_nil, ← Construct.drawnName_eq]
  cases defined? lang source seen.2 with
  | none => rfl
  | some e => by_cases he : e.kind ∈ c.kinds <;> simp [Option.filter_some, he]

theorem names_mentions (c : Construct) (lang : Language) (source : Source) (root : Node) :
    ((mentions lang source root).filter fun e => e.kind ∈ c.kinds).map (·.name) =
      root.preorder.filterMap (c.nameAt? lang source) := by
  rw [mentions, List.filter_flatMap, List.map_flatMap, ← nodes_withScope lang source none root,
    List.filterMap_eq_flatMap_toList, List.flatMap_map]
  exact List.flatMap_congr fun seen _ => names_mentioned c lang source seen

/-- **The graph draws each recorded name once**, in the order of the records. -/
theorem names_drawn {lang : Language} {c : Construct} (hin : c.isIn lang = true) (source : Source) (root : Node) :
    ((ofTree lang source root).drawn c).map (·.name) = distinct (c.recorded lang source root) := by
  -- a node is drawn for the construct by the word in its label, and the name is the rest of the label
  have hlabels (es : List Entity) : (es.filter fun e => e.kind ∈ c.kinds).map (·.name) =
      ((es.map Entity.label).filter fun l => l.role = c.word).map Label.name := by
    rw [List.filter_map, List.map_map]
    congr 1
    exact List.filter_congr fun e _ => decide_eq_decide.2 (c.mem_kinds_iff e.kind)
  have hinj : ∀ l ∈ ((mentions lang source root).map Entity.label).filter (fun l => l.role = c.word),
      ∀ l' ∈ ((mentions lang source root).map Entity.label).filter (fun l => l.role = c.word),
        l.name = l'.name → l = l' := by
    intro l hl l' hl' hname
    have hrole : l.role = l'.role := by simp_all
    cases l
    cases l'
    simp_all
  rw [drawn, hlabels, labels_ofTree, ← distinct_filter, ← distinct_map hinj, ← hlabels, names_mentions,
    Construct.recorded_eq hin]

theorem mem_drawn_iff {lang : Language} {source : Source} {root : Node} {e : Entity}
    (he : e ∈ (ofTree lang source root).nodes) (c : Construct) (path : String) :
    e ∈ (ofTree lang source root).drawn c ↔ e.label.inFile path = path ++ "::" ++ c.word ++ "::" ++ e.name := by
  have hmem : e ∈ (ofTree lang source root).drawn c ↔ e.kind.role = c.word := by
    rw [drawn, List.mem_filter, decide_eq_true_eq, c.mem_kinds_iff, and_iff_right he]
  rw [hmem]
  by_cases hfile : e.kind = .file
  · obtain ⟨kind, hkind⟩ : ∃ kind : EntityKind, kind.role = c.word ∧ kind ≠ .file := by
      cases c
      exacts [⟨.function, by decide⟩, ⟨.method, by decide⟩, ⟨.classType, by decide⟩, ⟨.structType, by decide⟩,
        ⟨.struct, by decide⟩, ⟨.trait, by decide⟩]
    rw [isProper_of_mem he hfile, ← hkind.1]
    exact iff_of_false (fun h => hkind.2 ((role_eq_file_iff kind).1 h.symm)) (inFile_anchor_ne path kind _)
  · rw [inFile_of_ne_file hfile, String.append_left_inj, String.append_left_inj, String.append_right_inj]

/-- **The graph draws what is recorded.**  For each construct of a language the nodes, told by their labels, have the
recorded names and no others, and there are as many nodes as different names, since no two nodes look alike. -/
theorem drawn_as_recorded {lang : Language} {c : Construct} (hin : c.isIn lang = true) (source : Source) (root : Node)
    (path : String) :
    let g := ofTree lang source root
    ((g.drawn c).map (·.name)).toFinset = (c.recorded lang source root).toFinset ∧
      (g.drawn c).length = (c.recorded lang source root).toFinset.card ∧
      (∀ e ∈ g.nodes, e ∈ g.drawn c ↔ e.label.inFile path = path ++ "::" ++ c.word ++ "::" ++ e.name) ∧
      (g.nodes.map fun e => e.label.inFile path).Nodup := by
  intro g
  have hnames : (g.drawn c).map (·.name) = distinct (c.recorded lang source root) := names_drawn hin source root
  have hset : ((g.drawn c).map (·.name)).toFinset = (c.recorded lang source root).toFinset := by
    rw [hnames]
    ext name
    rw [List.mem_toFinset, List.mem_toFinset, mem_distinct_iff]
  have hnodup : ((g.drawn c).map (·.name)).Nodup := by
    rw [hnames]
    exact nodup_distinct _
  refine ⟨hset, ?_, fun e he => mem_drawn_iff he c path, nodup_inFile lang source root path⟩
  rw [← hset, List.toFinset_card_of_nodup hnodup, List.length_map]

/-- A struct and an interface of the same name, the second inside a method. -/
def twiceNamed : Node :=
  let name : Node := ⟨"type_identifier", 0, 1, 0, 0, some "name", []⟩
  let typeSpec (kind : String) : Node :=
    ⟨"type_spec", 0, 1, 0, 0, none, [name, ⟨kind, 1, 1, 0, 0, some "type", []⟩]⟩
  ⟨"source_file", 0, 1, 0, 0, none,
    [typeSpec "struct_type", ⟨"method_declaration", 0, 1, 0, 0, none, [name, typeSpec "interface_type"]⟩]⟩

theorem drawn_as_recorded_twiceNamed :
    Construct.namedType.isIn .go = true ∧ Construct.namedType.recorded .go (some "T") twiceNamed = ["T", "T"] ∧
      ((ofTree .go (some "T") twiceNamed).drawn .namedType).length = 1 := by
  have hrecorded : Construct.namedType.recorded .go (some "T") twiceNamed = ["T", "T"] := by decide +kernel
  refine ⟨rfl, hrecorded, ?_⟩
  rw [(drawn_as_recorded (c := .namedType) rfl (some "T") twiceNamed "a.go").2.1, hrecorded]
  rfl

end Graph
end PullReview
