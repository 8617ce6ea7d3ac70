import PullReview.Double.Digits
import PullReview.Json.Basic
/-!
# A value inside a sentence

How a value reads when it stands in a line of text: a text as it is, anything else by its usual notation, in which the
texts inside lists and objects are quoted.
-/
namespace PullReview
namespace Json

mutual

def notate : Json → String
  | .null => "None"
  | .bool b => if b then "True" else "False"
  | .int n => toString n
  | .real x => x.text
  | .text s => Text.quoted s
  | .list xs => "[" ++ notateItems xs ++ "]"
  | .object fs => "\x7b" ++ notateFields fs ++ "\x7d"
  | .record fs => "namespace(" ++ Text.joinWith ", " (notateParts fs) ++ ")"

def notateItems : List Json → String
  | [] => ""
  | [x] => notate x
  | x :: y :: rest => notate x ++ ", " ++ notateItems (y :: rest)

def notateFields : List (String × Json) → String
  | [] => ""
  | [(name, v)] => Text.quoted name ++ ": " ++ notate v
  | (name, v) :: f :: rest => Text.quoted name ++ ": " ++ notate v ++ ", " ++ notateFields (f :: rest)

/-- The parts of a record; one without a name is left out. -/
def notateParts : List (String × Json) → List String
  | [] => []
  | (name, v) :: rest => if name = "" then notateParts rest else (name ++ "=" ++ notate v) :: notateParts rest

end

def display : Json → String
  | .text s => s
  | v => notate v

end Json
end PullReview
