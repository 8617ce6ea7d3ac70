/-!
# Lists by key

Each item of a list once, the groups of items with one key, and lists in which an item takes the place of the one that has
its key.
-/
namespace PullReview

/-- Each item at the place where it first stands. -/
def distinct {α : Type} [DecidableEq α] : List α → List α
  | [] => []
  | a :: rest => a :: (distinct rest).filter (· ≠ a)

section Keys

variable {α κ : Type} [DecidableEq κ] (key : α → κ)

/-- One group for each key, in the order in which the keys first occur, and within a group the order of the list. -/
def groupBy (xs : List α) : List (κ × List α) :=
  (distinct (xs.map key)).map fun k => (k, xs.filter fun x => key x = k)

/-- The item at the old place if its key is there already, else at the end. -/
def putBy (a : α) : List α → List α
  | [] => [a]
  | x :: rest => if key x = key a then a :: rest else x :: putBy a rest

end Keys

end PullReview
