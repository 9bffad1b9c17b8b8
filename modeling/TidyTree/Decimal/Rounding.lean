/-
TidyTree.Decimal.Rounding — exact rounding of quotients of natural
numbers.

A binary floating point number is kept as `significand * 2 ^ exponent`
with a natural significand, and a format (`BinaryFormat`) is the number
of significand bits with the two ends of its exponent range.  Rounding a
quotient `n / d` is one `roundHalfEven` at the right scale, so nothing
here depends on hardware arithmetic: the same function gives single and
double precision, normal and subnormal numbers alike.
-/

namespace TidyTree.Decimal

/-! ## 1. Powers and rounding -/

/-- Two to the power `n`. -/
def twoTo (n : Nat) : Nat := Nat.pow 2 n

/-- Ten to the power `n`. -/
def tenTo (n : Nat) : Nat := Nat.pow 10 n

/-- The natural number nearest to `n / d`; of two equally near ones the even one. -/
def roundHalfEven (n d : Nat) : Nat :=
  let q := n / d
  let r := n % d
  if d < 2 * r ∨ (2 * r = d ∧ q % 2 = 1) then q + 1 else q

/-! ## 2. Binary floating point -/

/-- The number `significand * 2 ^ exponent`. -/
structure Binary where
  significand : Nat
  exponent : Int
deriving DecidableEq, Repr, Inhabited

namespace Binary

/-- The number zero. -/
def zero : Binary := ⟨0, 0⟩

/-- The value as a numerator and a denominator. -/
def ratio (x : Binary) : Nat × Nat :=
  (x.significand * twoTo x.exponent.toNat, twoTo (-x.exponent).toNat)

/-- The exact sum, not rounded to any format. -/
def add (x y : Binary) : Nat × Nat :=
  let (a, b) := x.ratio
  let (c, d) := y.ratio
  (a * d + c * b, b * d)

/-- The exact product, not rounded to any format. -/
def mul (x y : Binary) : Nat × Nat :=
  let (a, b) := x.ratio
  let (c, d) := y.ratio
  (a * c, b * d)

/-- The exact quotient, not rounded to any format. -/
def div (x y : Binary) : Nat × Nat :=
  let (a, b) := x.ratio
  let (c, d) := y.ratio
  (a * d, b * c)

/-- The largest natural number not above the value. -/
def floor (x : Binary) : Nat := x.ratio.1 / x.ratio.2

/-- Whether the value is at least one. -/
def atLeastOne (x : Binary) : Bool := x.ratio.2 ≤ x.ratio.1

end Binary

/-- A binary floating point format: significand bits, the exponent of its finest unit, and the
power of two that is already out of its range. -/
structure BinaryFormat where
  bits : Nat
  least : Int
  limit : Int
deriving DecidableEq, Repr

namespace BinaryFormat

/-- Single precision: 24 bits. -/
def single : BinaryFormat := ⟨24, -149, 128⟩

/-- Double precision: 53 bits. -/
def double : BinaryFormat := ⟨53, -1074, 1024⟩

/-- `n * 2 ^ (-e) / d` as one quotient. -/
def scaled (n d : Nat) (e : Int) : Nat × Nat := (n * twoTo (-e).toNat, d * twoTo e.toNat)

/-- The exponent at which `n / d` has as many significand bits as the format holds, or the
exponent of the finest unit if that is coarser. -/
def unitExponent (f : BinaryFormat) (n d : Nat) : Int :=
  let guess : Int := (n.log2 : Int) - d.log2 - f.bits
  let (a, b) := scaled n d guess
  max f.least (if a / b < twoTo f.bits then guess else guess + 1)

/-- The number with `bits` significand bits, if rounding up gave it one more: half the significand
in units twice as large. -/
def carried (f : BinaryFormat) (x : Binary) : Binary :=
  if x.significand = twoTo f.bits then ⟨x.significand / 2, x.exponent + 1⟩ else x

/-- The number of the format nearest to `n / d`, of two equally near ones the one with the even
significand; `none` if the quotient rounds out of range. -/
def round (f : BinaryFormat) (n d : Nat) : Option Binary :=
  if n = 0 then some .zero
  else
    let e := f.unitExponent n d
    let (a, b) := scaled n d e
    let x := f.carried ⟨roundHalfEven a b, e⟩
    if (x.significand.log2 : Int) + x.exponent < f.limit then some x else none

end BinaryFormat

end TidyTree.Decimal
