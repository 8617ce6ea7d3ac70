import PullReview.Graph.Basic
import PullReview.Text.Blank
import PullReview.Text.Word
import PullReview.Tree.Definition
/-!
# The graph of a tree

The tree is walked in preorder.  Every node is seen together with the innermost function around it, its *scope*.  A
definition is added and hung under its scope; an import hangs under its scope, or under the file when it has none; a
call counts only inside a function.
-/
namespace PullReview
namespace Graph

def defined? (lang : Language) (source : Source) (n : Node) : Option Entity :=
  let named (kind : EntityKind) (field : String) := (n.fieldText? source field).map fun name => Entity.mk kind name
  match lang, n.kind with
  | .python, "function_definition" => named .function "name"
  | .python, "class_definition" => named .classType "name"
  | .go, "function_declaration" => named .function "name"
  | .go, "method_declaration" => named .method "name"
  | .go, "type_spec" =>
    match (n.child? "type").map (·.kind) with
    | some "struct_type" => named .structType "name"
    | some "interface_type" => named .interfaceType "name"
    | _ => none
  | .rust, "function_item" => named .function "name"
  | .rust, "struct_item" => named .struct "name"
  | .rust, "impl_item" => named .impl "type"
  | .rust, "trait_item" => named .trait "name"
  | _, _ => none

def imported? (lang : Language) (source : Source) (n : Node) : Option String :=
  match lang, n.kind with
  | .python, "import_statement" => some (Text.strip (n.text source))
  | .python, "import_from_statement" => some (Text.strip (n.text source))
  | .go, "import_spec" => some (Text.strip (n.text source))
  | .rust, "use_declaration" => some (Text.strip (n.text source))
  | _, _ => none

/-- The name of a Python callee: what stands before the first bracket, if it is made of word characters and
underscores and not of underscores alone. -/
def plainCallee? (s : String) : Option String :=
  let name := Text.trim (s.toList.takeWhile (· ≠ '('))
  if Text.isWord (name.filter (· ≠ '_')) then some (String.ofList name) else none

def callee? (s : String) : Option String :=
  let name := Text.strip s
  if name = "" then none else some name

def called? (lang : Language) (source : Source) (n : Node) : Option String :=
  match lang, n.kind with
  | .python, "call" => ((n.child? "function" <|> n.children.head?).map (Node.text source)).bind plainCallee?
  | .go, "call_expression" => (n.fieldText? source "function").bind callee?
  | .rust, "call_expression" => (n.fieldText? source "function").bind callee?
  | _, _ => none

def innerScope (lang : Language) (source : Source) (scope : Option Label) (n : Node) : Option Label :=
  match defined? lang source n with
  | some e => if e.kind.isScope then some e.label else scope
  | none => scope

mutual

/-- The nodes of a tree in preorder, each with the scope around it. -/
def withScope (lang : Language) (source : Source) (scope : Option Label) : Node → List (Option Label × Node)
  | ⟨kind, start, stop, row, endRow, field, children⟩ =>
    let n : Node := ⟨kind, start, stop, row, endRow, field, children⟩
    (scope, n) :: withScopeAll lang source (innerScope lang source scope n) children

def withScopeAll (lang : Language) (source : Source) (scope : Option Label) : List Node → List (Option Label × Node)
  | [] => []
  | n :: rest => withScope lang source scope n ++ withScopeAll lang source scope rest

end

def addDefinition (g : Graph) (scope : Option Label) (e : Entity) : Graph :=
  let g := g.addNode e
  match scope with
  | some f => g.addEdge f e.label .contains
  | none => g

def anchor : Entity := ⟨.file, ""⟩

def addImport (g : Graph) (scope : Option Label) (text : String) : Graph :=
  let e : Entity := ⟨.importLine, text⟩
  let g := g.addNode e
  match scope with
  | some f => g.addEdge f e.label .uses
  | none => (g.addNode anchor).addEdge anchor.label e.label .imports

def addCall (g : Graph) (scope : Option Label) (name : String) : Graph :=
  match scope with
  | some f =>
    let e : Entity := ⟨.call, name⟩
    (g.addNode e).addEdge f e.label .calls
  | none => g

def visit (lang : Language) (source : Source) (g : Graph) (seen : Option Label × Node) : Graph :=
  let (scope, n) := seen
  let g := (defined? lang source n).elim g (addDefinition g scope)
  let g := (imported? lang source n).elim g (addImport g scope)
  (called? lang source n).elim g (addCall g scope)

def ofTree (lang : Language) (source : Source) (root : Node) : Graph :=
  (withScope lang source none root).foldl (visit lang source) empty

end Graph
end PullReview
