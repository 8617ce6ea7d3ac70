import Mathlib.Algebra.Ring.Nat
import PullReview.Graph.CrossFile
import PullReview.Proofs.Graph.Network
import PullReview.Proofs.Tree.Preorder
import PullReview.Tree.Import
/-!
# Imports of several files

The modules that a tree names are found by a descent of their own, and it finds what the analysis of a Python file gives
(`modulesNamed_eq_imports`).  Files are taken one after the other, their imports kept under their paths and their edges
added at the end (`gather`).  As long as the paths differ, no file is put over another one and all edges come from imports
that are kept (`foldl_gather`).
-/
namespace PullReview

/-! ## One file -/

theorem Node.imports_eq (lang : Language) (source : Source) (n : Node) :
    n.imports lang source = n.importsHere lang source ++ n.children.flatMap (Node.imports lang source) := by
  unfold Node.imports
  rw [Node.preorder_eq, List.flatMap_cons, List.flatMap_assoc]

theorem Node.filterMap_dottedName (source : Source) (n : Node) :
    n.children.filterMap (Graph.dottedName? source) = n.childTexts source "dotted_name" := by
  rw [Node.childTexts, ← List.filterMap_eq_map, List.filterMap_filter]
  refine List.filterMap_congr fun c _ => ?_
  by_cases hkind : c.kind = "dotted_name" <;> simp [Graph.dottedName?, hkind]

namespace Graph

theorem modulesNamedAll_eq (source : Source) (ns : List Node) :
    modulesNamedAll source ns = ns.flatMap (modulesNamed source) := by
  induction ns with
  | nil => rw [modulesNamedAll, List.flatMap_nil]
  | cons n rest ih => rw [modulesNamedAll, ih, List.flatMap_cons]

/-- What a statement names by itself, and what is named inside of it. -/
theorem modulesNamed_eq (source : Source) (n : Node) :
    modulesNamed source n = n.importsHere .python source ++ n.children.flatMap (modulesNamed source) := by
  have hnames := n.filterMap_dottedName source
  -- of a statement with `from` only the first name counts
  have hfirst : (n.children.findSome? (dottedName? source)).toList = (n.childTexts source "dotted_name").take 1 := by
    rw [← List.head?_filterMap, hnames, List.take_one]
  obtain ⟨kind, start, stop, row, endRow, field, parts⟩ := n
  rw [modulesNamed, modulesNamedAll_eq, hfirst, hnames]
  by_cases hfrom : kind = "import_from_statement"
  · simp [Node.importsHere, hfrom]
  · by_cases hplain : kind = "import_statement"
    · simp [Node.importsHere, hplain]
    · simp [Node.importsHere, hfrom, hplain]

/-- **Both descents find the same imports.** -/
theorem modulesNamed_eq_imports (source : Source) (n : Node) : modulesNamed source n = n.imports .python source := by
  induction n using Node.ofChildren with
  | step n ih =>
    rw [modulesNamed_eq, Node.imports_eq]
    exact congrArg (_ ++ ·) (List.flatMap_congr ih)

/-! ## One file after the other -/

section Gathering

variable {π : Type} [DecidableEq π]

theorem gather_of_not_mem {found : Gathered π} {f : ParsedFile π} (h : f.path ∉ found.imports.map Prod.fst) :
    gather found f = ⟨found.imports ++ [(f.path, f.imports)],
      found.edges ++ f.imports.filterMap (importEdge? f.path)⟩ := by
  rw [gather, putBy_of_not_mem h, List.foldl_append_eq_append, List.filterMap_eq_flatMap_toList, List.flatMap_def]

/-- **Files with paths of their own leave all that is gathered in place.** -/
theorem foldl_gather : ∀ (files : List (ParsedFile π)) (found : Gathered π),
    (found.imports.map Prod.fst ++ files.map (·.path)).Nodup →
      files.foldl gather found = ⟨found.imports ++ files.map fun f => (f.path, f.imports),
        found.edges ++ files.flatMap fun f => f.imports.filterMap (importEdge? f.path)⟩
  | [], found, _ => by simp
  | f :: rest, found, h => by
    have hnew : f.path ∉ found.imports.map Prod.fst := fun hmem =>
      (List.nodup_append.1 h).2.2 f.path hmem f.path List.mem_cons_self rfl
    have hrest : ((found.imports ++ [(f.path, f.imports)]).map Prod.fst ++ rest.map (·.path)).Nodup := by
      simpa using h
    rw [List.foldl_cons, gather_of_not_mem hnew, foldl_gather rest _ hrest]
    simp

theorem crossFile_imports {files : List (ParsedFile π)} (h : (files.map (·.path)).Nodup) (net : Network) :
    (crossFile files net).imports = importMap files := by
  have htotal : (files.map fun f => (f.path, f.imports)).foldl (fun total kept => total + kept.2.length) 0 =
      (files.map fun f => f.imports.length).sum := by
    simp only [List.sum_eq_foldl, List.foldl_map]
  rw [crossFile, foldl_gather files ⟨[], []⟩ h, importMap]
  simp [htotal, List.length_flatMap, List.flatMap_map]

end Gathering

/-! ## Edges -/

theorem target_eq (name : String) :
    "src/" ++ modulePath name = "src/" ++ (name.map fun c => if c = '.' then '/' else c) ++ ".py" := by
  have hswap : Text.swap '.' '/' name = name.map fun c => if c = '.' then '/' else c := by
    rw [Text.swap, ← String.toList_map, String.ofList_toList]
  rw [modulePath, hswap, String.append_assoc]

/-- **There is one edge for each name with a dot**, in the order of the names. -/
theorem filterMap_importEdge {π : Type} (path : π) (names : List String) : names.filterMap (importEdge? path) =
    (names.filter fun name => '.' ∈ name.toList).map fun name =>
      ⟨path, "src/" ++ (name.map fun c => if c = '.' then '/' else c) ++ ".py", name⟩ := by
  rw [← List.filterMap_eq_map, List.filterMap_filter]
  refine List.filterMap_congr fun name _ => ?_
  by_cases hdot : '.' ∈ name.toList <;> simp [importEdge?, hdot, target_eq]

/-- **The imports of several files are those of their analyses.**  Files that differ in their paths are gathered one after
the other; what comes out is the same beside every graph.  Each path has the imports of its file, their number is counted
over all files, and the edges are those imports that have a dot in their names, file by file and name by name. -/
theorem imports_as_analysed {π : Type} [DecidableEq π] {files : List (ParsedFile π)} (hpaths : (files.map (·.path)).Nodup)
    (net : Network) :
    let told := (crossFile files net).imports
    let imports (f : ParsedFile π) : List String := f.root.imports .python f.source
    told = importMap files ∧
      told.files = files.map (fun f => (f.path, imports f)) ∧
      told.total = (files.map fun f => (imports f).length).sum ∧
      told.edges = files.flatMap fun f => ((imports f).filter fun name => '.' ∈ name.toList).map fun name =>
        ⟨f.path, "src/" ++ (name.map fun c => if c = '.' then '/' else c) ++ ".py", name⟩ := by
  intro told imports
  have hmap : told = importMap files := crossFile_imports hpaths net
  have himports : (ParsedFile.imports : ParsedFile π → List String) = imports :=
    funext fun f => modulesNamed_eq_imports f.source f.root
  refine ⟨hmap, ?_, ?_, ?_⟩
  · rw [hmap, importMap, himports]
  · rw [hmap, importMap, himports]
    simp [List.length_flatMap, Function.comp_def]
  · rw [hmap, importMap, himports, List.flatMap_map]
    exact List.flatMap_congr fun f _ => filterMap_importEdge f.path (imports f)

/-- Two files: one with two statements, the second of them inside a function, and one that imports what the first does. -/
def twoImporters : List (ParsedFile String) :=
  let node (kind : String) (start stop : Int) (parts : List Node) : Node := ⟨kind, start, stop, 0, 0, none, parts⟩
  let name (start stop : Int) : Node := node "dotted_name" start stop []
  [⟨"a.py", some "from pkg.mod import sys\nimport os.path, sys", node "module" 0 43
      [node "import_from_statement" 0 23 [name 5 12, name 20 23],
        node "function_definition" 24 43 [node "import_statement" 24 43 [name 31 38, name 40 43]]]⟩,
    ⟨"b.py", some "import os.path", node "module" 0 14 [node "import_statement" 0 14 [name 7 14]]⟩]

theorem imports_as_analysed_twoImporters :
    (twoImporters.map (·.path)).Nodup ∧
      (crossFile twoImporters Network.empty).imports =
        { files := [("a.py", ["pkg.mod", "os.path", "sys"]), ("b.py", ["os.path"])]
          edges := [⟨"a.py", "src/pkg/mod.py", "pkg.mod"⟩, ⟨"a.py", "src/os/path.py", "os.path"⟩,
            ⟨"b.py", "src/os/path.py", "os.path"⟩]
          total := 4 } := by
  have hpaths : (twoImporters.map (·.path)).Nodup := by decide
  refine ⟨hpaths, ?_⟩
  rw [(imports_as_analysed hpaths Network.empty).1]
  decide +kernel

end Graph
end PullReview
