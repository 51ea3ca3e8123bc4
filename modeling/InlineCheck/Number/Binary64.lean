/-! # Binary floating point

Numbers of the binary64 format kept as sign, mantissa and exponent, so that every question about
them is one of exact arithmetic.

* `ofRatio` — the nearest number to a quotient, ties to the even mantissa.
* `toInt?` — the integer a number equals.
-/

namespace InlineCheck.Number

/-- A binary64 number; `finite s m e` is `m * 2 ^ e`, negated when `s`. -/
inductive Binary64 where
  | nan
  | infinity (negative : Bool)
  | finite (negative : Bool) (mantissa : Nat) (exponent : Int)
  deriving DecidableEq, Repr, Inhabited

namespace Binary64

def precision : Nat := 53

def minExponent : Int := -1074

def maxExponent : Int := 971

/-- `num / den` rounded to an integer, a half to the even one. -/
def roundQuotient (num den : Nat) : Nat :=
  let q := num / den
  let r := num % den
  if 2 * r < den then q
  else if den < 2 * r then q + 1
  else if q % 2 = 0 then q else q + 1

def scaled (num den : Nat) (e : Int) : Nat × Nat :=
  if 0 ≤ e then (num, den * Nat.pow 2 e.toNat) else (num * Nat.pow 2 (-e).toNat, den)

/-- The number nearest to `num / den`. -/
def ofRatio (negative : Bool) (num den : Nat) : Binary64 :=
  if num = 0 then .finite negative 0 0
  else
    let guess : Int := max minExponent ((num.log2 : Int) - den.log2 - precision)
    let (n, d) := scaled num den guess
    let e := if Nat.pow 2 precision ≤ n / d then guess + 1 else guess
    let (n, d) := scaled num den e
    let m := roundQuotient n d
    let (m, e) := if m = Nat.pow 2 precision then (Nat.pow 2 (precision - 1), e + 1) else (m, e)
    if maxExponent < e then .infinity negative else .finite negative m e

def isZero : Binary64 → Bool
  | .finite _ 0 _ => true
  | _ => false

def toInt? : Binary64 → Option Int
  | .finite negative m e =>
    let magnitude : Option Nat :=
      if 0 ≤ e then some (m * Nat.pow 2 e.toNat)
      else if m % Nat.pow 2 (-e).toNat = 0 then some (m / Nat.pow 2 (-e).toNat) else none
    magnitude.map fun (n : Nat) => if negative then -(n : Int) else (n : Int)
  | _ => none

/-- Whether two numbers compare equal: a NaN equals nothing, and the zeros are equal. -/
def same (x y : Binary64) : Bool :=
  match x, y with
  | .nan, _ => false
  | _, .nan => false
  | x, y => x = y || (x.isZero && y.isZero)

end Binary64

end InlineCheck.Number
