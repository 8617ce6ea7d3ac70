import PullReview.Graph.Network
import PullReview.Json.Basic
/-!
# What a graph shows

The numbers about a graph that go into a report.  An empty graph shows nothing.
-/
namespace PullReview
namespace Graph

structure Insight where
  functionCount : Nat := 0
  classCount : Nat := 0
  importCount : Nat := 0
  calls : List String := []
  relationships : Nat := 0
deriving DecidableEq, Repr

def insight? (g : Graph) : Option Insight :=
  if g.nodes.isEmpty then none
  else
    some
      { functionCount := (g.namesOf .function).length
        classCount := (g.namesOf .classType).length
        importCount := (g.namesOf .importLine).length
        calls := distinct ((g.namesOf .call).filter (· ≠ ""))
        relationships := g.edges.length }

/-- The numbers as a document, which is empty for an empty graph. -/
def insightDocument (g : Graph) : Json :=
  match g.insight? with
  | none => .object []
  | some i =>
    .object [("function_count", .int i.functionCount), ("class_count", .int i.classCount),
      ("import_count", .int i.importCount), ("function_calls", .ofTexts i.calls),
      ("relationships", .int i.relationships)]

end Graph

namespace Network

def tally (i : Graph.Insight) (attributes : List (String × String)) : Graph.Insight :=
  match attributes.lookup "type" with
  | some "function" => { i with functionCount := i.functionCount + 1 }
  | some "class" => { i with classCount := i.classCount + 1 }
  | some "import" => { i with importCount := i.importCount + 1 }
  | some "call" =>
    let name := (attributes.lookup "name").getD ""
    if name = "" ∨ name ∈ i.calls then i else { i with calls := i.calls ++ [name] }
  | _ => i

def insight? (net : Network) : Option Graph.Insight :=
  if net.nodes.isEmpty then none
  else some { (net.nodes.map Prod.snd).foldl tally {} with relationships := net.edges.length }

end Network
end PullReview
