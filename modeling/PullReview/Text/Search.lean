/-!
# Searching and cutting text

Texts are searched as lists of characters.  Every function here is structural recursion on the text, so the kernel can
evaluate it, and counts characters, never bytes.
-/
namespace PullReview
namespace Text

def contains (needle : List Char) : List Char → Bool
  | [] => needle.isEmpty
  | c :: cs => needle.isPrefixOf (c :: cs) || contains needle cs

/-- The pieces of a text between the occurrences of `sep`; one more than there are occurrences. -/
def splitOn (sep : Char) : List Char → List (List Char)
  | [] => [[]]
  | c :: cs =>
    if c = sep then [] :: splitOn sep cs
    else match splitOn sep cs with
      | [] => [[c]]
      | piece :: pieces => (c :: piece) :: pieces

def lines (s : List Char) : List (List Char) := splitOn '\n' s

def cutFirst (sep : Char) : List Char → Option (List Char × List Char)
  | [] => none
  | c :: cs => if c = sep then some ([], cs) else (cutFirst sep cs).map fun (a, b) => (c :: a, b)

def cutLast (sep : Char) : List Char → Option (List Char × List Char)
  | [] => none
  | c :: cs =>
    match cutLast sep cs with
    | some (a, b) => some (c :: a, b)
    | none => if c = sep then some ([], cs) else none

def after? (pre : List Char) (s : List Char) : Option (List Char) :=
  if pre.isPrefixOf s then some (s.drop pre.length) else none

def startsWith (pre s : String) : Bool := pre.toList.isPrefixOf s.toList

def endsWith (suf s : String) : Bool := suf.toList.isSuffixOf s.toList

def containsText (needle s : String) : Bool := contains needle.toList s.toList

def swap (old new : Char) (s : String) : String :=
  String.ofList (s.toList.map fun c => if c = old then new else c)

def clip (n : Nat) (s : String) : String := String.ofList (s.toList.take n)

/-- The place in a text of some length that a position stands for.  Positions below zero count from the end. -/
def placeOf (length : Nat) (position : Int) : Nat :=
  if 0 ≤ position then position.toNat else (length + position).toNat

def slice (start stop : Int) (s : String) : String :=
  String.ofList ((s.toList.take (placeOf s.length stop)).drop (placeOf s.length start))

def joinWith (sep : String) : List String → String
  | [] => ""
  | [s] => s
  | s :: t :: rest => s ++ sep ++ joinWith sep (t :: rest)

def joinLines (parts : List String) : String := joinWith "\n" parts

def trimOf (c : Char) (s : String) : String :=
  String.ofList (((s.toList.dropWhile (· = c)).reverse.dropWhile (· = c)).reverse)

end Text
end PullReview
