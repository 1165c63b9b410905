namespace Concord

/-! Finite binary64 values, held as a sign, a significand and a power of two.

Arithmetic is exact on fractions of naturals and rounds once, to the nearest value and on a tie to
the even significand.  A result beyond the largest finite value is no value.
-/

abbrev powerOfTwo (exponent : Nat) : Nat := Nat.pow 2 exponent

abbrev powerOfTen (exponent : Nat) : Nat := Nat.pow 10 exponent

/-- The value `± significand · 2 ^ exponent`. -/
structure Real64 where
  negative : Bool
  significand : Nat
  exponent : Int
deriving DecidableEq, Repr

namespace Real64

def zero : Real64 := ⟨false, 0, -1074⟩

def isZero (x : Real64) : Bool := x.significand == 0

def numerator (x : Real64) : Nat := x.significand * powerOfTwo x.exponent.toNat

def denominator (x : Real64) : Nat := powerOfTwo (-x.exponent).toNat

def withSign (x : Real64) (negative : Bool) : Real64 := { x with negative }

/-- The quotient rounded to the nearest natural, a half to the even one. -/
def roundQuotient (num den : Nat) : Nat :=
  let floor := num / den
  match compare (2 * (num % den)) den with
  | .lt => floor
  | .gt => floor + 1
  | .eq => if floor % 2 = 0 then floor else floor + 1

/-- The power of two that leaves a quotient of 53 bits, or the least one there is. -/
def scaleOf (num den : Nat) : Int :=
  let estimate : Int := (num.log2 : Int) - den.log2 - 53
  let exponent :=
    if num * powerOfTwo (-estimate).toNat < den * powerOfTwo (estimate.toNat + 53) then estimate
    else estimate + 1
  max exponent (-1074)

def ofFraction (num den : Nat) : Option Real64 :=
  if num = 0 then some zero
  else
    let exponent := scaleOf num den
    let rounded :=
      roundQuotient (num * powerOfTwo (-exponent).toNat) (den * powerOfTwo exponent.toNat)
    let value : Real64 :=
      if rounded = powerOfTwo 53 then ⟨false, powerOfTwo 52, exponent + 1⟩
      else ⟨false, rounded, exponent⟩
    if value.exponent ≤ 971 then some value else none

def ofNat (n : Nat) : Option Real64 := ofFraction n 1

def ofInt (n : Int) : Option Real64 := (ofNat n.natAbs).map (·.withSign (n < 0))

def mul (x y : Real64) : Option Real64 :=
  (ofFraction (x.numerator * y.numerator) (x.denominator * y.denominator)).map
    (·.withSign (x.negative != y.negative))

/-- The quotient; the divisor is not zero. -/
def div (x y : Real64) : Option Real64 :=
  (ofFraction (x.numerator * y.denominator) (x.denominator * y.numerator)).map
    (·.withSign (x.negative != y.negative))

/-- The value nearest to `digits · 10 ^ exponent`.  Exponents that decide the answer by their size
alone are not computed with. -/
def ofDecimal (digits : Nat) (exponent : Int) : Option Real64 :=
  let leading : Int := (Nat.toDigits 10 digits).length + exponent
  if digits = 0 ∨ leading < -330 then some zero
  else if leading > 310 then none
  else ofFraction (digits * powerOfTen exponent.toNat) (powerOfTen (-exponent).toNat)

def isIntegral (x : Real64) : Bool := x.numerator % x.denominator == 0

/-- The exact order of a value and a fraction with positive denominator. -/
def compareFraction (x : Real64) (num : Int) (den : Nat) : Ordering :=
  let signed : Int := if x.negative then -(x.numerator : Int) else x.numerator
  compare (signed * den) (num * x.denominator)

end Real64

end Concord
