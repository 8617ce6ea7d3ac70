import PullReview.Graph.Network
import PullReview.Store.Embedding
/-!
# Indexing

Writing graphs, imports and learnings into the store.  The text is embedded first, then the point gets its id, then
it is added.
-/
namespace PullReview
namespace Store

structure GraphDigest where
  path : Json
  functions : List String
  classes : List String
  calls : List String
  nodes : Nat
  edges : Nat

namespace GraphDigest

def ofGraph (path : Json) (g : Graph) : GraphDigest :=
  { path, functions := g.namesOf .function, classes := g.namesOf .classType, calls := g.namesOf .call,
    nodes := g.nodes.length, edges := g.edges.length }

def document (g : GraphDigest) : Json :=
  .object [("file_path", g.path), ("functions", .ofTexts g.functions), ("classes", .ofTexts g.classes),
    ("calls", .ofTexts g.calls), ("nodes", .int g.nodes), ("edges", .int g.edges)]

def payload (g : GraphDigest) : Json :=
  .object [("type", "code_graph"), ("file_path", g.path), ("functions", .ofTexts g.functions),
    ("classes", .ofTexts g.classes), ("calls", .ofTexts g.calls), ("node_count", .int g.nodes),
    ("edge_count", .int g.edges)]

end GraphDigest

def importPayload (path source imports : Json) : Except Fault Json := do
  return .object [("type", "import_file"), ("file_path", path), ("source_code", source), ("imports", imports),
    ("import_count", .int (← imports.size))]

/-- Something learned from a review, all of it in documents: the commit, the review, the feedback to it if there is any,
and the code it was about. -/
structure Learning where
  commit : Json
  review : Json
  feedback : Json := .null
  context : Json := ""

namespace Learning

def answer (l : Learning) (name : String) (fallback : Json) : Except Fault Json :=
  if l.feedback.isGiven then l.feedback.field name "" else .ok fallback

def record (l : Learning) : Except Fault String := do
  let message ← l.commit.field "message" ""
  let comment ← l.review.field "comment" ""
  learningRecord message comment (← l.answer "comment" "") l.context

/-- Feedback of which nothing is known is feedback still. -/
def hasFeedback (l : Learning) : Bool := l.feedback.kind ≠ .null

def payload (l : Learning) : Except Fault Json := do
  let context ← if l.context.isGiven then l.context.beginning 1000 else pure ""
  return .object [("type", "learning"), ("commit_sha", ← l.commit.field "sha" ""),
    ("commit_message", ← l.commit.field "message" ""), ("bot_comment", ← l.review.field "comment" ""),
    ("bot_comment_file", ← l.review.field "file" ""), ("user_feedback", ← l.answer "comment" .null),
    ("user_feedback_author", ← l.answer "author" .null), ("has_user_feedback", .bool l.hasFeedback),
    ("code_context", context)]

end Learning

def addPoint (svc : Service) (c : Collection) (text : String) (payload : Json) : Run Store String := do
  let _ ← embed svc text
  let id ← newId
  upsert svc c id payload
  return id

def indexGraph (svc : Service) (path : Json) (g : Graph) : Run Store String := do
  let digest := GraphDigest.ofGraph path g
  addPoint svc .codeGraphs (← Run.of (graphRecord digest.document)) digest.payload

def indexImports (svc : Service) (path source imports : Json) : Run Store String := do
  addPoint svc .importFiles (← Run.of (importRecord path source imports)) (← Run.of (importPayload path source imports))

def indexLearning (svc : Service) (l : Learning) : Run Store String := do
  addPoint svc .learnings (← Run.of l.record) (← Run.of l.payload)

inductive Indexing where
  | graph (path : String) (g : Graph)
  | imports (path source : String) (names : List String)

def Indexing.perform (svc : Service) : Indexing → Run Store String
  | .graph path g => indexGraph svc path g
  | .imports path source names => indexImports svc path source (.ofTexts names)

/-- Indexes one after the other, up to the first that fails. -/
def indexAll (svc : Service) (calls : List Indexing) : Run Store Unit :=
  Run.each (fun i => do let _ ← i.perform svc) calls

end Store

/-! ## Networks -/

namespace Network

/-- The names of the nodes of one type; each of these has to have one. -/
def namesOf (net : Network) (type : String) : Except Fault (List String) :=
  (net.nodes.filter fun n => n.2.lookup "type" = some type).mapM fun n =>
    ((n.2.lookup "name").map Except.ok).getD (.error (.missingField "name"))

def digest (net : Network) (key : Json) : Except Fault Store.GraphDigest := do
  let functions ← net.namesOf "function"
  let classes ← net.namesOf "class"
  let calls ← net.namesOf "call"
  return { path := key, functions, classes, calls, nodes := net.nodes.length, edges := net.edges.length }

def index (svc : Store.Service) (key : Json) (net : Network) : Run Store String := do
  let digest ← Run.of (net.digest key)
  Store.addPoint svc .codeGraphs (← Run.of (Store.graphRecord digest.document)) digest.payload

end Network
end PullReview
