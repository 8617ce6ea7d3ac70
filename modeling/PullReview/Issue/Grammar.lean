import PullReview.Text.Blank
import PullReview.Text.Decimal
import PullReview.Text.Search
/-!
# The grammar of reviewers' lines

Reviewers answer in lines of text.  A *location* is a path, a colon and digits, all between two backticks.  A
*header* is a location, a dash and a description, and opens an issue.  Below it stand labelled pieces of code.
Everything here reads one line, without a line feed, and takes the leftmost place that fits.
-/
namespace PullReview
namespace Issue

open Text

structure Location where
  path : List Char
  digits : List Char
deriving DecidableEq, Repr

/-- Reads what stands between two backticks.  Digits hold no colon, so the last colon is the one that counts. -/
def location? (run : List Char) : Option Location :=
  match cutLast ':' run with
  | some (path, digits) =>
    if !path.isEmpty && !digits.isEmpty && digits.all isDigit then some ⟨path, digits⟩ else none
  | none => none

def locationAt? (s : List Char) : Option (Location × List Char) :=
  match cutFirst '\x60' s with
  | some (run, rest) => (location? run).map fun loc => (loc, rest)
  | none => none

def hasLocation : List Char → Bool
  | [] => false
  | c :: cs => (c == '\x60' && (locationAt? cs).isSome) || hasLocation cs

structure Header where
  location : Location
  description : List Char
deriving DecidableEq, Repr

/-- The dash and the description that make a location a header; the description is not empty, though it may be blank. -/
def description? (s : List Char) : Option (List Char) :=
  match trimStart s with
  | '-' :: c :: rest => some (trim (c :: rest))
  | _ => none

def headerAt? (s : List Char) : Option Header :=
  match locationAt? s with
  | some (loc, rest) => (description? rest).map fun d => ⟨loc, d⟩
  | none => none

/-- The leftmost header of a line. -/
def header? : List Char → Option Header
  | [] => none
  | c :: cs => (if c == '\x60' then headerAt? cs else none) <|> header? cs

/-! ## Labelled code

After its label, code stands between two backticks.  It is at least one character long, so a backtick right after the
opening one is part of it. -/

def codeAt? (label s : List Char) : Option (List Char) :=
  match (after? label s).map trimStart with
  | some ('\x60' :: c :: rest) => (cutFirst '\x60' rest).map fun (code, _) => trim (c :: code)
  | _ => none

/-- The leftmost code with this label. -/
def labelled? (label : List Char) : List Char → Option (List Char)
  | [] => none
  | c :: cs => codeAt? label (c :: cs) <|> labelled? label cs

/-- The labels of the code that stands there, strongest first. -/
def currentLabels : List (List Char) := ["**Current code:**".toList, "Current code:".toList]

/-- The labels of the code that should, strongest first. -/
def fixLabels : List (List Char) := ["**Fix:**".toList, "**Optimization:**".toList, "Fix:".toList]

def firstLabelled? (labels : List (List Char)) (line : List Char) : Option (List Char) :=
  labels.findSome? fun label => labelled? label line

end Issue
end PullReview
