import PullReview.Store.Embedding
import PullReview.Text.Lower
/-!
# Setting the store up

Every collection that is missing is created, and the two that are read by path get an index on it.  An index that cannot
be created is no failure; it is reported, unless the reason is that it is there already.
-/
namespace PullReview
namespace Store

structure Layout where
  existing : List String
  changes : List Change

def createCollection (svc : Service) (c : Collection) : Run Layout Unit := do
  Run.update fun l => { l with changes := l.changes ++ [.createCollection c] }
  Run.of (svc.check .createCollection c)
  Run.update fun l => { l with existing := l.existing ++ [c.name] }

def createIndex (svc : Service) (c : Collection) : Run Layout Unit := do
  Run.update fun l => { l with changes := l.changes ++ [.createIndex c] }
  Run.of (svc.check .createIndex c)

def setUpCollection (svc : Service) (existing : List String) (c : Collection) : Run Layout Unit := do
  if existing.contains c.name then Run.say ("Collection: " ++ c.name ++ " already exists")
  else
    Run.say ("Creating Qdrant collection: " ++ c.name)
    createCollection svc c
  if c.isByPath then
    indexed.orElse fun cause =>
      if Text.containsText "already exists" (Text.lower cause.message) then pure ()
      else Run.say ("Note: Could not create index for " ++ c.name ++ ".file_path: " ++ cause.message)
where
  indexed : Run Layout Unit := do
    createIndex svc c
    Run.say ("Created payload index for " ++ c.name ++ ".file_path")

def setUp (svc : Service) : Run Layout Unit := do
  let existing := (← Run.state).existing
  Run.each (setUpCollection svc existing) Collection.all

/-! ## The parameters of a collection -/

def shardCount : Nat := 6

def replicaCount : Nat := 2

end Store
end PullReview
