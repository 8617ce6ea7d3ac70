import PullReview.Double.Basic
/-!
# The digits of a binary number

A number is written with the fewest decimal digits that lead back to it, and of those with the nearest; of two that are
equally near, with the one that ends in an even digit.  From a ten-thousandth up to ten to the sixteenth it is written
with a point, beyond that with an exponent.
-/
namespace PullReview
namespace Double

/-- A quotient above zero lies between ten to this exponent and ten times that. -/
def decimalExponent (num den : Nat) : Int :=
  if den ≤ num then (Nat.toDigits 10 (num / den)).length - 1
  else
    let places := (Nat.toDigits 10 (den / num)).length
    if den ≤ num * tenTo (places - 1) then 1 - (places : Int) else -(places : Int)

/-- The two numbers of whole steps of ten to the `e` around a quotient, the nearer first, in the middle the even one. -/
def around (num den : Nat) (e : Int) : List Nat :=
  let (n, d) := if 0 ≤ e then (num, den * tenTo e.toNat) else (num * tenTo (-e).toNat, den)
  let below := n / d
  let isBelowFirst := if 2 * (n % d) = d then below % 2 = 0 else 2 * (n % d) < d
  if isBelowFirst then [below, below + 1] else [below + 1, below]

/-- Digits and a decimal exponent that lead back to a finite number other than zero.  Seventeen digits always do. -/
def shortest (m : Nat) (e : Int) : Nat × Int :=
  let (num, den) := scaled m 1 (-e)
  let top := decimalExponent num den
  let found := (List.range 17).findSome? fun (k : Nat) =>
    let step := top - (k : Int)
    ((around num den step).find? fun c => ofDecimal false c step == .finite false m e).map fun c => (c, step)
  found.getD (0, 0)

def withoutZeros (digits : List Char) : List Char := (digits.reverse.dropWhile (· = '0')).reverse

def zeros (n : Nat) : List Char := List.replicate n '0'

def pointed (digits : List Char) (e : Int) : List Char :=
  if e < 0 then "0.".toList ++ zeros (-e - 1).toNat ++ digits
  else
    let whole := e.toNat + 1
    let tail := digits.drop whole
    digits.take whole ++ zeros (whole - digits.length) ++ '.' :: (if tail.isEmpty then ['0'] else tail)

/-- Digits with one of them before the point, and an exponent of two places or more. -/
def withExponent (digits : List Char) (e : Int) : List Char :=
  let tail := digits.drop 1
  let places := Nat.toDigits 10 e.natAbs
  digits.take 1 ++ (if tail.isEmpty then [] else '.' :: tail) ++ ['e', if e < 0 then '-' else '+'] ++
    zeros (2 - places.length) ++ places

def magnitude (m : Nat) (e : Int) : List Char :=
  if m = 0 then "0.0".toList
  else
    let (digits, step) := shortest m e
    let written := Nat.toDigits 10 digits
    let top := step + written.length - 1
    if -4 ≤ top && top < 16 then pointed (withoutZeros written) top else withExponent (withoutZeros written) top

def text : Double → String
  | .finite negative m e => String.ofList ((if negative then ['-'] else []) ++ magnitude m e)
  | .infinite negative => if negative then "-inf" else "inf"
  | .undefined => "nan"

end Double
end PullReview
