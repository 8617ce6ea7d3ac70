import PullReview.Fault
/-!
# Reading JSON values

Reading a value fails when the value is not of a kind that has the part asked for.
-/
namespace PullReview
namespace Json

/-- A field of an object, or `fallback` when the object has no such field. -/
def field (v : Json) (name : String) (fallback : Json) : Except Fault Json :=
  match v with
  | .object fields => .ok ((lookup fields name).getD fallback)
  | other => .error (.noAttribute other.kind "get")

def require (v : Json) (name : String) : Except Fault Json :=
  match v with
  | .object fields => ((lookup fields name).map .ok).getD (.error (.missingField name))
  | .text _ => .error .textPosition
  | .list _ => .error .listPosition
  | other => .error (.notSubscriptable other.kind)

/-- What a walk through the value meets: items, characters or field names. -/
def elements : Json → Except Fault (List Json)
  | .list xs => .ok xs
  | .text s => .ok (s.toList.map fun c => .text (String.singleton c))
  | .object fields => .ok (fields.map fun f => .text f.1)
  | other => .error (.notIterable other.kind)

def beginning (n : Nat) : Json → Except Fault Json
  | .text s => .ok (.text (Text.clip n s))
  | .list xs => .ok (.list (xs.take n))
  | .object _ => .error .noBeginning
  | other => .error (.notSubscriptable other.kind)

def size : Json → Except Fault Nat
  | .text s => .ok s.length
  | .list xs => .ok xs.length
  | .object fields => .ok fields.length
  | other => .error (.noLength other.kind)

def first : Json → Except Fault Json
  | .text s => ((s.toList.head?).map fun c => .ok (.text (String.singleton c))).getD (.error .emptyText)
  | .list xs => (xs.head?.map .ok).getD (.error .emptyList)
  | .object _ => .error .missingPosition
  | other => .error (.notSubscriptable other.kind)

/-- A text holds the texts inside it, a list its items and an object the names of its fields. -/
def holds (v : Json) (s : String) : Except Fault Bool :=
  match v with
  | .text t => .ok (Text.containsText s t)
  | .list xs => .ok (xs.any (·.isText s))
  | .object fields => .ok (fields.any fun f => f.1 == s)
  | other => .error (.notSearchable other.kind)

/-- The text that a value is, asked for something that only texts have. -/
def textFor (v : Json) (name : String) : Except Fault String :=
  match v with
  | .text s => .ok s
  | other => .error (.noAttribute other.kind name)

/-- Single values can be looked up; lists, objects and records cannot. -/
def requireKey : Json → Except Fault Unit
  | .list _ => .error (.notAKey .list)
  | .object _ => .error (.notAKey .object)
  | .record _ => .error (.notAKey .record)
  | _ => .ok ()

/-- All items as texts; the first that is none is reported with its place. -/
def textsFrom (place : Nat) : List Json → Except Fault (List String)
  | [] => .ok []
  | .text s :: rest => do return s :: (← textsFrom (place + 1) rest)
  | other :: _ => .error (.joinItem place other.kind)

def listed (v : Json) : Except Fault String :=
  match v.elements with
  | .ok xs => do return Text.joinWith ", " (← textsFrom 0 xs)
  | .error _ => .error .joinOfSingle

def isPositive : Json → Except Fault Bool
  | .int n => .ok (decide (0 < n))
  | .bool b => .ok b
  | .real x => .ok x.isPositive
  | other => .error (.cannotCompare other.kind)

end Json
end PullReview
