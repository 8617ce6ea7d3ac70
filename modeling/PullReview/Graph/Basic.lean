import PullReview.Keyed
/-!
# Semantic graphs

The graph of a file has the things that the file defines, imports and calls as its nodes, and what a function does
with them as its edges.  A node is told from the others by its role and name: adding it again keeps its place.
Nodes and edges stand in the order in which they were first added.
-/
namespace PullReview
namespace Graph

inductive EntityKind where
  | function
  | method
  | classType
  | structType
  | interfaceType
  | struct
  | impl
  | trait
  | importLine
  | call
  /-- The file itself, from which its imports hang. -/
  | file
deriving DecidableEq, Repr

namespace EntityKind

def name : EntityKind → String
  | .function => "function"
  | .method => "method"
  | .classType => "class"
  | .structType => "struct_type"
  | .interfaceType => "interface_type"
  | .struct => "struct"
  | .impl => "impl"
  | .trait => "trait"
  | .importLine => "import"
  | .call => "call"
  | .file => "file"

/-- The word for a kind in labels.  The two kinds of Go types share one: two types of one name are one node. -/
def role : EntityKind → String
  | .structType | .interfaceType => "type"
  | kind => kind.name

def isScope : EntityKind → Bool
  | .function | .method => true
  | _ => false

end EntityKind

/-- What tells a node from the others of its file. -/
structure Label where
  role : String
  name : String
deriving DecidableEq, Repr

/-- The label with its file.  The file itself has no name beside its path. -/
def Label.inFile (path : String) (l : Label) : String :=
  if l.role = EntityKind.file.role then path ++ "::" ++ l.role else path ++ "::" ++ l.role ++ "::" ++ l.name

structure Entity where
  kind : EntityKind
  name : String
deriving DecidableEq, Repr

def Entity.label (e : Entity) : Label := ⟨e.kind.role, e.name⟩

inductive Relation where
  | contains
  | uses
  | imports
  | calls
deriving DecidableEq, Repr

def Relation.name : Relation → String
  | .contains => "contains"
  | .uses => "uses"
  | .imports => "imports"
  | .calls => "calls"

structure Edge where
  source : Label
  target : Label
  relation : Relation
deriving DecidableEq, Repr

/-- Two nodes are joined by one edge at most. -/
def Edge.ends (e : Edge) : Label × Label := (e.source, e.target)

end Graph

structure Graph where
  nodes : List Graph.Entity
  edges : List Graph.Edge
deriving DecidableEq, Repr

namespace Graph

def empty : Graph := ⟨[], []⟩

def addNode (g : Graph) (e : Entity) : Graph := { g with nodes := putBy Entity.label e g.nodes }

def addEdge (g : Graph) (source target : Label) (relation : Relation) : Graph :=
  { g with edges := putBy Edge.ends ⟨source, target, relation⟩ g.edges }

def edgesFrom (g : Graph) (l : Label) : List Edge := g.edges.filter fun e => e.source = l

/-- All edges, those of one source together, sources in node order. -/
def edgesBySource (g : Graph) : List Edge := g.nodes.flatMap fun n => g.edgesFrom n.label

def namesOf (g : Graph) (kind : EntityKind) : List String := (g.nodes.filter fun n => n.kind = kind).map (·.name)

end Graph
end PullReview
