import PullReview.Tree.Basic
import PullReview.Tree.Language
/-!
# Definitions in a tree

Which nodes define a function or a class, by language, and what is recorded about each.  Go's structs and interfaces and
Rust's structs, implementations and traits are recorded as classes.
-/
namespace PullReview

inductive FunctionKind where
  | function
  /-- A method and what it is a method of. -/
  | method (receiver : Option String)
deriving DecidableEq, Repr

structure FunctionRecord where
  name : String
  kind : FunctionKind
  startLine : Int
  endLine : Int
  parameters : Option String
  source : String
deriving DecidableEq, Repr

inductive ClassKind where
  | plain
  | struct
  | interface
  | impl
  | traitImpl
  | trait
deriving DecidableEq, Repr

def ClassKind.name : ClassKind → String
  | .plain => "class"
  | .struct => "struct"
  | .interface => "interface"
  | .impl => "impl"
  | .traitImpl => "trait_impl"
  | .trait => "trait"

structure ClassRecord where
  name : String
  kind : ClassKind
  startLine : Int
  endLine : Int
  source : String
deriving DecidableEq, Repr

namespace Node

def functionKind? (lang : Language) (source : Source) (n : Node) : Option FunctionKind :=
  match lang, n.kind with
  | .python, "function_definition" => some .function
  | .javascript, "function_declaration" => some .function
  | .typescript, "function_declaration" => some .function
  | .go, "function_declaration" => some .function
  | .go, "method_declaration" => some (.method (n.fieldText? source "receiver"))
  | .rust, "function_item" => some .function
  | _, _ => none

def function? (lang : Language) (source : Source) (n : Node) : Option FunctionRecord := do
  let kind ← n.functionKind? lang source
  let name ← n.fieldText? source "name"
  return { name, kind, startLine := n.startLine, endLine := n.endLine,
           parameters := n.fieldText? source "parameters", source := n.text source }

def goTypeKind? (n : Node) : Option ClassKind :=
  match (n.child? "type").map (·.kind) with
  | some "struct_type" => some .struct
  | some "interface_type" => some .interface
  | _ => none

/-- An implementation is named for its type, and for its trait if it has one. -/
def implementation? (source : Source) (n : Node) : Option (String × ClassKind) :=
  match n.fieldText? source "type", n.fieldText? source "trait" with
  | some type, some trait => some (trait ++ " for " ++ type, .traitImpl)
  | some type, none => some (type, .impl)
  | none, _ => none

def className? (lang : Language) (source : Source) (n : Node) : Option (String × ClassKind) :=
  let named (kind : ClassKind) := (n.fieldText? source "name").map fun name => (name, kind)
  match lang, n.kind with
  | .python, "class_definition" => named .plain
  | .javascript, "class_declaration" => named .plain
  | .typescript, "class_declaration" => named .plain
  | .go, "type_spec" => n.goTypeKind?.bind named
  | .rust, "struct_item" => named .struct
  | .rust, "impl_item" => n.implementation? source
  | .rust, "trait_item" => named .trait
  | _, _ => none

def class? (lang : Language) (source : Source) (n : Node) : Option ClassRecord :=
  (n.className? lang source).map fun (name, kind) =>
    { name, kind, startLine := n.startLine, endLine := n.endLine, source := n.text source }

def functions (lang : Language) (source : Source) (root : Node) : List FunctionRecord :=
  root.preorder.filterMap (function? lang source)

def classes (lang : Language) (source : Source) (root : Node) : List ClassRecord :=
  root.preorder.filterMap (class? lang source)

end Node
end PullReview
