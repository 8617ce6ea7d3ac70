import PullReview.Fault
import PullReview.Text.Search
/-!
# Paths

A path is a list of names, from the root or from the working directory.  Empty names and single dots mean nothing
and are dropped; double dots stay, because what they mean hangs on the files.
-/
namespace PullReview

structure Path where
  /-- Slashes in front: none, one, or two. -/
  root : String
  names : List String
deriving DecidableEq, Repr

namespace Path

def rootOf (s : List Char) : String :=
  match s.takeWhile (· = '/') with
  | [] => ""
  | ['/', '/'] => "//"
  | _ => "/"

def namesIn (s : List Char) : List String :=
  ((Text.splitOn '/' s).filter fun name => !name.isEmpty && name ≠ ['.']).map String.ofList

def ofString (s : String) : Path := ⟨rootOf s.toList, namesIn s.toList⟩

def isAbsolute (p : Path) : Bool := p.root ≠ ""

/-- The path `s`, seen from `p`.  From anywhere, an absolute path is itself. -/
def join (p : Path) (s : String) : Path :=
  let q := ofString s
  if q.isAbsolute then q else ⟨p.root, p.names ++ q.names⟩

def named : Json → Except Fault Path
  | .text s => .ok (ofString s)
  | other => .error (.notAPath other.kind)

def follow (p : Path) : Json → Except Fault Path
  | .text s => .ok (p.join s)
  | other => .error (.cannotFollow other.kind)

def toString (p : Path) : String :=
  if p.root = "" && p.names.isEmpty then "." else p.root ++ Text.joinWith "/" p.names

/-- The end of a name from its last dot, empty if that dot is its first or last character. -/
def nameSuffix (name : List Char) : List Char :=
  match Text.cutLast '.' name with
  | some (_ :: _, d :: ds) => '.' :: d :: ds
  | _ => []

def suffix (p : Path) : String := String.ofList (nameSuffix ((p.names.getLast?.getD "").toList))

end Path
end PullReview
