import PullReview.Text.Decimal
/-!
# Timestamps

A point in time as the forge gives it, and the text for it.  Every part has a fixed width, and the fraction is written
only if there is one.
-/
namespace PullReview

structure Timestamp where
  year : Nat
  month : Nat
  day : Nat
  hour : Nat
  minute : Nat
  second : Nat
  microsecond : Nat
deriving DecidableEq, Repr

namespace Timestamp

def padded (width n : Nat) : String :=
  String.ofList (List.replicate (width - (toString n).length) '0') ++ toString n

def date (t : Timestamp) : String := padded 4 t.year ++ "-" ++ padded 2 t.month ++ "-" ++ padded 2 t.day

def time (t : Timestamp) : String := padded 2 t.hour ++ ":" ++ padded 2 t.minute ++ ":" ++ padded 2 t.second

def text (t : Timestamp) : String :=
  t.date ++ "T" ++ t.time ++ if t.microsecond = 0 then "" else "." ++ padded 6 t.microsecond

def display (t : Timestamp) : String := t.date ++ " " ++ t.time

end Timestamp
end PullReview
