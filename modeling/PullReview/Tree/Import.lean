import PullReview.Json.Basic
import PullReview.Tree.Definition
/-!
# Imports in a tree

The names that a file imports, in source order and with repetitions, and with them the whole analysis of a file, also in
the form in which it is handed on.
-/
namespace PullReview
namespace Node

def childTexts (source : Source) (kind : String) (n : Node) : List String :=
  (n.children.filter fun c => c.kind = kind).map (text source)

/-- What a single node imports.  A Python statement with `from` imports its first name, the module; a quoted path is
taken without its quotation marks. -/
def importsHere (lang : Language) (source : Source) (n : Node) : List String :=
  match lang, n.kind with
  | .python, "import_from_statement" => (n.childTexts source "dotted_name").take 1
  | .python, "import_statement" => n.childTexts source "dotted_name"
  | .javascript, "import_statement" => unquoted n
  | .typescript, "import_statement" => unquoted n
  | .go, "import_spec" => (n.childTexts source "interpreted_string_literal").map (Text.trimOf Text.doubleMark)
  | .rust, "use_declaration" => (n.fieldText? source "argument").toList
  | _, _ => []
where
  unquoted (n : Node) : List String :=
    (n.childTexts source "string").map fun s => Text.trimOf Text.singleMark (Text.trimOf Text.doubleMark s)

def imports (lang : Language) (source : Source) (root : Node) : List String :=
  root.preorder.flatMap (importsHere lang source)

end Node

structure Analysis where
  functions : List FunctionRecord
  classes : List ClassRecord
  imports : List String
deriving DecidableEq, Repr

def Node.analyse (lang : Language) (source : Source) (root : Node) : Analysis :=
  { functions := root.functions lang source, classes := root.classes lang source, imports := root.imports lang source }

/-! ## Documents -/

/-- The fields by which functions and methods are told apart. -/
def FunctionKind.fields : FunctionKind → List (String × Json)
  | .function => [("type", "function")]
  | .method receiver => [("type", "method"), ("receiver", .ofOption receiver)]

def FunctionRecord.document (f : FunctionRecord) : Json :=
  let common : List (String × Json) :=
    [("name", f.name), ("start_line", .int f.startLine), ("end_line", .int f.endLine),
    ("parameters", .ofOption f.parameters), ("signature", f.source), ("source", f.source)]
  .object (f.kind.fields ++ common)

def ClassRecord.document (c : ClassRecord) : Json :=
  .object [("name", c.name), ("type", c.kind.name), ("start_line", .int c.startLine), ("end_line", .int c.endLine),
    ("source", c.source)]

def Analysis.document (path language : Json) (a : Analysis) : Json :=
  .object [("file_path", path), ("language", language), ("functions", .list (a.functions.map (·.document))),
    ("classes", .list (a.classes.map (·.document))), ("imports", .ofTexts a.imports),
    ("analysis_method", "simplified_ast")]

end PullReview
