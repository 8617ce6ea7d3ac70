import PullReview.Graph.Network
/-!
# Imports across files

The imports of several Python files, gathered in one descent of each tree, and the files that dotted names point to by
the convention that a module lies under `src`.  A file is known by its path, whatever paths are made of.
-/
namespace PullReview
namespace Graph

structure ParsedFile (π : Type) where
  path : π
  source : Source
  root : Node

structure ImportEdge (π : Type) where
  source : π
  target : String
  name : String
deriving DecidableEq, Repr

structure ImportMap (π : Type) where
  /-- The imports of each file. -/
  files : List (π × List String)
  edges : List (ImportEdge π)
  total : Nat
deriving DecidableEq, Repr

def modulePath (name : String) : String := Text.swap '.' '/' name ++ ".py"

def importEdge? {π : Type} (path : π) (name : String) : Option (ImportEdge π) :=
  if name.toList.contains '.' then some ⟨path, "src/" ++ modulePath name, name⟩ else none

def dottedName? (source : Source) (n : Node) : Option String :=
  if n.kind = "dotted_name" then some (n.text source) else none

mutual

/-- The modules that the statements of a tree name: one for each `from`, any number for each plain `import`. -/
def modulesNamed (source : Source) : Node → List String
  | ⟨kind, _, _, _, _, _, parts⟩ =>
    if kind = "import_from_statement" then
      (parts.findSome? (dottedName? source)).toList ++ modulesNamedAll source parts
    else if kind = "import_statement" then
      parts.filterMap (dottedName? source) ++ modulesNamedAll source parts
    else modulesNamedAll source parts

def modulesNamedAll (source : Source) : List Node → List String
  | [] => []
  | n :: rest => modulesNamed source n ++ modulesNamedAll source rest

end

def ParsedFile.imports {π : Type} (f : ParsedFile π) : List String := modulesNamed f.source f.root

def importMap {π : Type} (files : List (ParsedFile π)) : ImportMap π :=
  let found := files.map fun f => (f.path, f.imports)
  { files := found
    edges := found.flatMap fun (path, names) => names.filterMap (importEdge? path)
    total := (found.flatMap fun (_, names) => names).length }

/-! ## One file after the other -/

section Gathering

variable {π : Type} [DecidableEq π]

/-- What is known after some of the files: their imports by path, and the edges. -/
structure Gathered (π : Type) where
  imports : List (π × List String)
  edges : List (ImportEdge π)

/-- One more file.  Imports that are kept under its path already are put over, edges never. -/
def gather (found : Gathered π) (f : ParsedFile π) : Gathered π :=
  { imports := putBy Prod.fst (f.path, f.imports) found.imports
    edges := f.imports.foldl (fun edges name => edges ++ (importEdge? f.path name).toList) found.edges }

/-- What is told about several files beside a graph of which only the size is asked. -/
structure CrossFile (π : Type) where
  imports : ImportMap π
  nodes : Nat
  edges : Nat

def crossFile (files : List (ParsedFile π)) (net : Network) : CrossFile π :=
  let found := files.foldl gather ⟨[], []⟩
  { imports :=
      { files := found.imports, edges := found.edges
        total := found.imports.foldl (fun total kept => total + kept.2.length) 0 }
    nodes := net.nodes.length
    edges := net.edges.length }

end Gathering

/-- Sizes of the union of graphs of several files: nodes and edges count once for each label. -/
def unionSize (graphs : List (String × Graph)) : Nat × Nat :=
  let nodes := graphs.flatMap fun (path, g) => g.nodes.map fun n => n.label.inFile path
  let edges := graphs.flatMap fun (path, g) => g.edges.map fun e => (e.source.inFile path, e.target.inFile path)
  ((distinct nodes).length, (distinct edges).length)

end Graph
end PullReview
