import PullReview.Json.Access
import PullReview.Run
/-!
# The vector store

Three collections of points.  A point has a payload, which is a JSON object, and a vector, which only the store
looks at.  Points are kept in the order in which they came; a point is never replaced.  Reading by a field and
reading by likeness both give the points at the front.
-/
namespace PullReview

inductive Collection where
  | codeGraphs
  | importFiles
  | learnings
deriving DecidableEq, Repr

namespace Collection

def name : Collection → String
  | .codeGraphs => "code_graphs"
  | .importFiles => "import_files"
  | .learnings => "learnings"

def all : List Collection := [.codeGraphs, .importFiles, .learnings]

/-- The collections that are read by the path of a file. -/
def isByPath : Collection → Bool
  | .codeGraphs | .importFiles => true
  | .learnings => false

end Collection

namespace Store

inductive Operation where
  | upsert
  | scroll
  | search
  | createCollection
  | createIndex
deriving DecidableEq, Repr

inductive Change where
  | upsert (collection : Collection) (id : String) (payload : Json)
  | createCollection (collection : Collection)
  | createIndex (collection : Collection)

/-- The embedding model and the store as services: what the model answers, and what is out of order. -/
structure Service where
  embedding : String → List Int
  embeddingOutage : Option String
  outage : Operation → Collection → Option String

structure Mishap where
  embedding : Option String := none
  outage : Operation → Option String := fun _ => none

def Service.amid (svc : Service) (m : Mishap) : Service :=
  { svc with
    embeddingOutage := m.embedding.or svc.embeddingOutage
    outage := fun op c => (m.outage op).or (svc.outage op c) }

end Store

structure Store where
  points : List (Collection × Json)
  /-- What was changed, in order. -/
  changes : List Store.Change
  /-- Texts given to the embedding model, in order. -/
  embedded : List String
  /-- How many point ids were given out. -/
  issued : Nat

namespace Store

def empty : Store := ⟨[], [], [], 0⟩

def ofPoints (points : List (Collection × Json)) : Store := { empty with points }

def payloads (s : Store) (c : Collection) : List Json :=
  s.points.filterMap fun (d, payload) => if d = c then some payload else none

namespace Service

def check (svc : Service) (op : Operation) (c : Collection) : Except Fault Unit :=
  match svc.outage op c with
  | some reason => .error (.refused reason)
  | none => .ok ()

end Service

def newId : Run Store String := do
  Run.update fun s => { s with issued := s.issued + 1 }
  return "id-" ++ toString (← Run.state).issued

def upsert (svc : Service) (c : Collection) (id : String) (payload : Json) : Run Store Unit := do
  Run.of (svc.check .upsert c)
  Run.update fun s => { s with points := s.points ++ [(c, payload)], changes := s.changes ++ [.upsert c id payload] }

/-- The first values, as many as a limit says.  Null is no limit, and one below zero says how many to leave out at the
end. -/
def limited {α : Type} (limit : Json) (xs : List α) : Except Fault (List α) :=
  match limit with
  | .null => .ok xs
  | .bool b => .ok (xs.take b.toNat)
  | .int n => .ok (xs.take (Text.placeOf xs.length n))
  | _ => .error .notAPosition

def scroll (svc : Service) (c : Collection) (fits : Json → Except Fault Bool) (limit : Json) :
    Run Store (List Json) := do
  Run.of (svc.check .scroll c)
  Run.of (limited limit (← Run.of (((← Run.state).payloads c).filterM fits)))

def search (svc : Service) (c : Collection) (limit : Json) : Run Store (List (Json × Int)) := do
  Run.of (svc.check .search c)
  let found ← Run.of (limited limit ((← Run.state).payloads c))
  return found.mapIdx fun i payload => (payload, 100 - (i : Int))

end Store
end PullReview
