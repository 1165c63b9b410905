import Concord.Number.Real64

namespace Concord

/-! Numbers in writing: the fewest decimal digits that read back to a value, and how they are laid
out.
-/

structure DecimalForm where
  digits : Nat
  exponent : Int
deriving DecidableEq, Repr

namespace Real64

/-- Whether a decimal lies among the numbers that round to this magnitude: between the halfway
points to the neighbours, which belong to it if the significand is even.  Below a power of two
the neighbour is only half as far away. -/
def readsBack (x : Real64) (form : DecimalForm) : Bool :=
  let narrow := x.significand = powerOfTwo 52 && x.exponent > -1074
  let low := if narrow then 4 * x.significand - 1 else 4 * x.significand - 2
  let high := 4 * x.significand + 2
  let scaled := form.digits * powerOfTen form.exponent.toNat * powerOfTwo (2 - x.exponent).toNat
  let unit := powerOfTwo (x.exponent - 2).toNat * powerOfTen (-form.exponent).toNat
  let closed := x.significand % 2 = 0
  match compare (low * unit) scaled, compare scaled (high * unit) with
  | .lt, .lt => true
  | .eq, .lt | .lt, .eq => closed
  | _, _ => false

/-- The least power of ten above the magnitude, as an exponent. -/
def decimalScale (x : Real64) : Int :=
  let digits := (Nat.toDigits 10 (x.numerator / x.denominator)).length
  if x.denominator ≤ x.numerator then digits
  else
    let shortfall := (Nat.toDigits 10 ((x.denominator - 1) / x.numerator)).length
    1 - (shortfall : Int)

/-- The neighbour on the grid of `places` digits that reads back, the nearer of two; halfway
between two, the even one. -/
def onGrid? (x : Real64) (scale : Int) (places : Nat) : Option DecimalForm :=
  let grid := scale - places
  let num := x.numerator * powerOfTen (-grid).toNat
  let den := x.denominator * powerOfTen grid.toNat
  let nearest := roundQuotient num den
  let below := num / den
  let other := if nearest = below then below + 1 else below
  [nearest, other].map (DecimalForm.mk · grid) |>.find? x.readsBack

def dropTrailingZeros : Nat → DecimalForm → DecimalForm
  | 0, form => form
  | limit + 1, form =>
      if form.digits ≠ 0 ∧ form.digits % 10 = 0 then
        dropTrailingZeros limit ⟨form.digits / 10, form.exponent + 1⟩
      else form

/-- The shortest decimal that reads back; seventeen digits always suffice. -/
def shortest (x : Real64) : DecimalForm :=
  if x.isZero then ⟨0, 0⟩
  else
    let scale := x.decimalScale
    match (List.range 18).findSome? (x.onGrid? scale) with
    | some form => dropTrailingZeros 17 form
    | none => ⟨0, 0⟩

end Real64

/-- How a number is laid out: which exponents of the leading digit are written with a point among
the digits, and whether a whole number shows its point. -/
structure NumberLayout where
  positional : Int → Bool
  pointZero : Bool

namespace NumberLayout

private def zeros (count : Nat) : List Char := List.replicate count '0'

def layOut (layout : NumberLayout) (form : DecimalForm) : List Char :=
  let digits := Nat.toDigits 10 form.digits
  let leading : Int := form.exponent + digits.length - 1
  if layout.positional leading then
    if 0 ≤ form.exponent then
      digits ++ zeros form.exponent.toNat ++ if layout.pointZero then ['.', '0'] else []
    else if 0 ≤ leading then
      digits.take (leading.toNat + 1) ++ '.' :: digits.drop (leading.toNat + 1)
    else ['0', '.'] ++ zeros (-leading - 1).toNat ++ digits
  else
    let fraction := digits.drop 1
    digits.take 1 ++ (if fraction.isEmpty then [] else '.' :: fraction) ++
      ['e', if leading < 0 then '-' else '+'] ++ Nat.toDigits 10 leading.natAbs

def write (layout : NumberLayout) (x : Real64) : String :=
  String.ofList ((if x.negative then ['-'] else []) ++ layout.layOut x.shortest)

/-- Positional at every size, a whole number without a point. -/
def plain : NumberLayout := ⟨fun _ => true, false⟩

/-- Positional at every size, a whole number with `.0`. -/
def pointed : NumberLayout := ⟨fun _ => true, true⟩

end NumberLayout

end Concord
