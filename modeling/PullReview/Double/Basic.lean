/-!
# Binary numbers

A number with a fraction or an exponent stands for the nearest number of fifty-three binary digits; of two that are
equally near, for the one whose last binary digit is zero.  What is too large for any is infinite, and what is too small
is zero.
-/
namespace PullReview

/-- A finite number is its significand times two to its exponent. -/
inductive Double where
  | finite (negative : Bool) (significand : Nat) (exponent : Int)
  | infinite (negative : Bool)
  /-- The number that is none. -/
  | undefined
deriving DecidableEq, Repr

namespace Double

def precision : Nat := 53

def leastExponent : Int := -1074

def greatestExponent : Int := 971

abbrev twoTo (n : Nat) : Nat := Nat.pow 2 n

abbrev tenTo (n : Nat) : Nat := Nat.pow 10 n

/-- A quotient to the nearest whole number, a half to the even one. -/
def nearestWhole (num den : Nat) : Nat :=
  let whole := num / den
  let twice := 2 * (num % den)
  if twice < den then whole
  else if den < twice then whole + 1
  else whole + whole % 2

/-- The quotient `num / den`, divided by two to the `e`. -/
def scaled (num den : Nat) (e : Int) : Nat × Nat :=
  if 0 ≤ e then (num, den * twoTo e.toNat) else (num * twoTo (-e).toNat, den)

/-- The exponent at which a quotient above zero fills a significand, as far as there is such an exponent. -/
def exponentOf (num den : Nat) : Int :=
  let low := max ((num.log2 : Int) - den.log2 - precision) leastExponent
  let (n, d) := scaled num den low
  if twoTo precision ≤ n / d then low + 1 else low

def ofQuotient (negative : Bool) (num den : Nat) : Double :=
  let e := exponentOf num den
  let (n, d) := scaled num den e
  let whole := nearestWhole n d
  let (m, e) := if whole = twoTo precision then (twoTo (precision - 1), e + 1) else (whole, e)
  if greatestExponent < e then .infinite negative else .finite negative m e

def zero (negative : Bool) : Double := .finite negative 0 leastExponent

/-- Decimal exponents beyond this lead out of all numbers there are. -/
def decimalRange : Int := 400

def ofDecimal (negative : Bool) (digits : Nat) (e : Int) : Double :=
  let size : Int := (Nat.toDigits 10 digits).length + e
  if digits = 0 || size < -decimalRange then zero negative
  else if decimalRange < size then .infinite negative
  else if 0 ≤ e then ofQuotient negative (digits * tenTo e.toNat) 1
  else ofQuotient negative digits (tenTo (-e).toNat)

def isZero : Double → Bool
  | .finite _ m _ => m == 0
  | _ => false

def isPositive : Double → Bool
  | .finite negative m _ => !negative && m != 0
  | .infinite negative => !negative
  | .undefined => false

/-- The same number: both zeros are one, and what is no number is not even itself. -/
def equals (x y : Double) : Bool := x != .undefined && (x == y || x.isZero && y.isZero)

def isWhole (x : Double) (n : Int) : Bool :=
  match x with
  | .finite negative m e =>
    let (num, den) := scaled n.natAbs 1 e
    num == m * den && (n == 0 || negative == decide (n < 0))
  | _ => false

end Double
end PullReview
