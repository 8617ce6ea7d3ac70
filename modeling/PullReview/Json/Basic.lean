import PullReview.Double.Basic
import PullReview.Keyed
import PullReview.Text.Quoted
import PullReview.Text.Search
/-!
# JSON values

Webhook payloads and stored points are JSON documents of no fixed shape, so they are values of this type.  The fields of
an object keep the order in which their names were first given.  A number with a fraction or an exponent is a binary
number, however it was written.  What a service tells about a thing of its own is a record: it has parts like an object,
but it is not a document, so nothing in it can be looked up, and even an empty one counts as given.
-/
namespace PullReview

inductive Json where
  | null
  | bool (b : Bool)
  | int (n : Int)
  | real (x : Double)
  | text (s : String)
  | list (items : List Json)
  | object (fields : List (String × Json))
  | record (parts : List (String × Json))
deriving Inhabited

inductive Kind where
  | null
  | bool
  | int
  | real
  | text
  | list
  | object
  | record
  /-- A pull request as its service keeps it; no value holds one. -/
  | pullRequest
deriving DecidableEq, Repr

def Kind.name : Kind → String
  | .null => "NoneType"
  | .bool => "bool"
  | .int => "int"
  | .real => "float"
  | .text => "str"
  | .list => "list"
  | .object => "dict"
  | .record => "types.SimpleNamespace"
  | .pullRequest => "Pull"

namespace Json

instance : Coe String Json := ⟨Json.text⟩

def kind : Json → Kind
  | .null => .null
  | .bool _ => .bool
  | .int _ => .int
  | .real _ => .real
  | .text _ => .text
  | .list _ => .list
  | .object _ => .object
  | .record _ => .record

def lookup (fields : List (String × Json)) (name : String) : Option Json :=
  (fields.find? fun f => f.1 == name).map Prod.snd

def get? : Json → String → Option Json
  | .object fields, name => lookup fields name
  | _, _ => none

def isText (v : Json) (s : String) : Bool :=
  match v with
  | .text t => t == s
  | _ => false

/-- A value counts as given unless it is null, false, zero or empty. -/
def isGiven : Json → Bool
  | .null => false
  | .bool b => b
  | .int n => n != 0
  | .real x => !x.isZero
  | .text s => s != ""
  | .list xs => !xs.isEmpty
  | .object fs => !fs.isEmpty
  | .record _ => true

/-- Truth values count as numbers where numbers are compared. -/
def whole? : Json → Option Int
  | .bool b => some (if b then 1 else 0)
  | .int n => some n
  | _ => none

def sameNumber : Json → Json → Bool
  | .real x, .real y => x.equals y
  | .real x, b => b.whole?.any x.isWhole
  | a, .real y => a.whole?.any y.isWhole
  | a, b => a.whole?.isSome && a.whole? == b.whole?

mutual

/-- Two values are the same whatever the order of their fields, and numbers by what they amount to. -/
def same : Json → Json → Bool
  | .null, .null => true
  | .text s, .text t => s == t
  | .list xs, .list ys => sameItems xs ys
  | .object fs, .object gs => fs.length == gs.length && sameFields fs gs
  | .record fs, .record gs => fs.length == gs.length && sameFields fs gs
  | a, b => sameNumber a b

def sameItems : List Json → List Json → Bool
  | [], [] => true
  | x :: xs, y :: ys => same x y && sameItems xs ys
  | _, _ => false

def sameFields : List (String × Json) → List (String × Json) → Bool
  | [], _ => true
  | (name, v) :: rest, gs =>
    (match lookup gs name with
      | some w => same v w
      | none => false) && sameFields rest gs

end

/-- The fields of both objects, those of `b` winning; just `b` when one of the two is not an object. -/
def merge : Json → Json → Json
  | .object fs, .object gs => .object (gs.foldl (fun fields g => putBy Prod.fst g fields) fs)
  | _, b => b

def ofOption (s : Option String) : Json := s.elim .null .text

def ofTexts (xs : List String) : Json := .list (xs.map .text)

end Json
end PullReview
