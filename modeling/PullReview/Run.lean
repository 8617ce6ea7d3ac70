import PullReview.Fault
/-!
# Runs

A run is work that may fail, changes a state and reports on a console.  What was done before a failure stays done: a
handler goes on with the state and the console that the failing part left.
-/
namespace PullReview

/-- A state and the lines reported so far. -/
structure Session (σ : Type) where
  state : σ
  console : List String

abbrev Run (σ : Type) := ExceptT Fault (StateM (Session σ))

namespace Run

variable {σ τ α : Type}

def say (line : String) : Run σ Unit := modify fun s => { s with console := s.console ++ [line] }

def state : Run σ σ := do return (← get).state

def update (f : σ → σ) : Run σ Unit := modify fun s => { s with state := f s.state }

def of (r : Except Fault α) : Run σ α :=
  match r with
  | .ok a => pure a
  | .error f => throw f

/-- Does `act`; if it fails, does what `handler` says about the fault. -/
def orElse (act : Run σ α) (handler : Fault → Run σ α) : Run σ α := tryCatch act handler

def within (part : τ → σ) (put : σ → τ → τ) (act : Run σ α) : Run τ α := fun s =>
  let (r, t) := act ⟨part s.state, s.console⟩
  (r, ⟨put t.state s.state, t.console⟩)

def each (f : α → Run σ Unit) : List α → Run σ Unit
  | [] => pure ()
  | a :: rest => do f a; each f rest

def mapEach {β : Type} (f : α → Run σ β) : List α → Run σ (List β)
  | [] => pure []
  | a :: rest => do return (← f a) :: (← mapEach f rest)

end Run

/-- A run from a state and an empty console: the result, the last state and what was reported. -/
def Run.start {σ α : Type} (act : Run σ α) (s : σ) : Except Fault α × Session σ := act ⟨s, []⟩

end PullReview
