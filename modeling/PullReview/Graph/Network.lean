import PullReview.Graph.Build
/-!
# Graphs as networks

A network is what a graph looks like from outside: nodes are texts with attributes, edges have types, an edge whose ends
are missing makes them, and what is added again is put over what was there.  A tree can be drawn into a network just so,
with the labels as texts.
-/
namespace PullReview

/-- The attribute that a name stands in.  The file has none. -/
def Graph.EntityKind.detail : EntityKind → Option String
  | .file => none
  | .importLine => some "text"
  | _ => some "name"

def Graph.Entity.attributes (e : Entity) : List (String × String) :=
  ("type", e.kind.name) :: (e.kind.detail.map fun detail => (detail, e.name)).toList

structure Network where
  nodes : List (String × List (String × String))
  edges : List ((String × String) × String)
deriving DecidableEq

def Graph.written (path : String) (g : Graph) : Network :=
  ⟨g.nodes.map fun e => (e.label.inFile path, e.attributes),
    g.edges.map fun x => ((x.source.inFile path, x.target.inFile path), x.relation.name)⟩

namespace Network

open PullReview.Graph

def empty : Network := ⟨[], []⟩

def has (net : Network) (label : String) : Bool := (net.nodes.lookup label).isSome

/-- Attributes that are there already are put over. -/
def addNode (net : Network) (label : String) (attributes : List (String × String)) : Network :=
  let old := (net.nodes.lookup label).getD []
  { net with nodes := putBy Prod.fst (label, attributes.foldl (fun kept a => putBy Prod.fst a kept) old) net.nodes }

def withEnd (net : Network) (label : String) : Network := if net.has label then net else net.addNode label []

def addEdge (net : Network) (source target type : String) : Network :=
  let net := (net.withEnd source).withEnd target
  { net with edges := putBy Prod.fst ((source, target), type) net.edges }

/-! ## Drawing a tree -/

section Walk

variable (path : String) (lang : Language) (source : Source)

def addDefinition (net : Network) (scope : Option String) (e : Entity) : Network :=
  let label := e.label.inFile path
  let net := net.addNode label e.attributes
  match scope with
  | some f => net.addEdge f label "contains"
  | none => net

def addImport (net : Network) (scope : Option String) (text : String) : Network :=
  let e : Entity := ⟨.importLine, text⟩
  let label := e.label.inFile path
  let net := net.addNode label e.attributes
  match scope with
  | some f => net.addEdge f label "uses"
  | none =>
    let file := anchor.label.inFile path
    let net := if net.has file then net else net.addNode file anchor.attributes
    net.addEdge file label "imports"

def addCall (net : Network) (scope : Option String) (name : String) : Network :=
  let e : Entity := ⟨.call, name⟩
  let label := e.label.inFile path
  match scope with
  | some f => (net.addNode label e.attributes).addEdge f label "calls"
  | none => net

/-- A function is the scope of all that comes after its name. -/
def scopeAt (scope : Option String) (n : Node) : Option String :=
  match defined? lang source n with
  | some e => if e.kind.isScope then some (e.label.inFile path) else scope
  | none => scope

def visit (net : Network) (scope : Option String) (n : Node) : Network :=
  let inner := scopeAt path lang source scope n
  let net := (defined? lang source n).elim net (addDefinition path net scope)
  let net := (imported? lang source n).elim net (addImport path net inner)
  (called? lang source n).elim net (addCall path net inner)

mutual

def walk (net : Network) (scope : Option String) : Node → Network
  | ⟨kind, start, stop, row, endRow, field, children⟩ =>
    let n : Node := ⟨kind, start, stop, row, endRow, field, children⟩
    walkAll (visit path lang source net scope n) (scopeAt path lang source scope n) children

def walkAll (net : Network) (scope : Option String) : List Node → Network
  | [] => net
  | n :: rest => walkAll (walk net scope n) scope rest

end

def ofTree (root : Node) : Network := walk path lang source empty none root

end Walk

end Network
end PullReview
