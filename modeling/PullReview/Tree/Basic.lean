import PullReview.Text.Search
/-!
# Syntax trees

A node has a kind, the stretch of source text it covers, the rows it starts and ends on, and the name of the field it
fills in its parent.  Trees are read through one view, the list of their nodes in preorder, which is source order.

A stretch is cut out of the text by character positions, as far as the text has them; positions below zero count from
its end.  Where no text is at hand every stretch is empty.
-/
namespace PullReview

structure Node where
  kind : String
  start : Int
  stop : Int
  row : Int
  endRow : Int
  field : Option String
  children : List Node

abbrev Source := Option String

namespace Node

def bare : Node := ⟨"module", 0, 0, 0, 0, none, []⟩

instance : Inhabited Node := ⟨bare⟩

def child? (n : Node) (field : String) : Option Node := n.children.find? fun c => c.field == some field

def text (source : Source) (n : Node) : String := source.elim "" (Text.slice n.start n.stop)

def fieldText? (source : Source) (n : Node) (field : String) : Option String := (n.child? field).map (text source)

/-- First and last line, counted from one. -/
def startLine (n : Node) : Int := n.row + 1

def endLine (n : Node) : Int := n.endRow + 1

mutual

/-- The node and all nodes below it, each before its children. -/
def preorder : Node → List Node
  | ⟨kind, start, stop, row, endRow, field, children⟩ =>
    ⟨kind, start, stop, row, endRow, field, children⟩ :: preorderAll children

def preorderAll : List Node → List Node
  | [] => []
  | n :: rest => preorder n ++ preorderAll rest

end

end Node
end PullReview
