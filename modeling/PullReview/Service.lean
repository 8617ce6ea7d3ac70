import PullReview.Store.Setup
/-!
# The service

What the service says about itself, and what it does when it starts.
-/
namespace PullReview
namespace Service

structure Health where
  status : String
  service : String

def health : Health := ⟨"healthy", "code-rabbit"⟩

def installationUrl (slug : String) : String := "https://github.com/apps/" ++ slug ++ "/installations/new"

/-- What is ready once the service has started, by name. -/
def parts : List String := ["embedding_service", "vector_indexer"]

def start (svc : Store.Service) : Run Store.Layout (List String) := do
  Run.say "Initializing VectorDB"
  Store.setUp svc
  Run.say "Loading embedding model"
  Run.say ("Gemini Embeddings loaded: " ++ toString Store.vectorSize)
  Run.say "Loading vector indexer"
  Run.say "Successfully initiated"
  return parts

end Service
end PullReview
