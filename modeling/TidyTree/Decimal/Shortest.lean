/-
TidyTree.Decimal.Shortest — the shortest decimal text of a double.

`shortest x` looks at the interval of reals that round to `x` (its ends
belong to it exactly when the significand is even) and takes the
decimal with the fewest digits in it; of several, the one nearest to
`x`.  All comparisons are between natural numbers.  `Layout` is how
such digits are laid out as text.
-/
import TidyTree.Decimal.Rounding

namespace TidyTree.Decimal

/-- The number `digits * 10 ^ exponent`. -/
structure Scientific where
  digits : Nat
  exponent : Int
deriving DecidableEq, Repr

/-! ## 1. The interval of a double -/

/-- Four times the value and the two midpoints to its neighbours, over one denominator. -/
structure Interval where
  low : Nat
  value : Nat
  high : Nat
  denominator : Nat
  closed : Bool

/-- The interval of reals that round to the double `x`.  Below a power of two the neighbour is
half as far away, except at the finest unit. -/
def Interval.ofDouble (x : Binary) : Interval :=
  let e := x.exponent - 2
  let up := twoTo e.toNat
  let narrow := x.significand = twoTo 52 ∧ x.exponent ≠ -1074
  { low := (4 * x.significand - (if narrow then 1 else 2)) * up
    value := 4 * x.significand * up
    high := (4 * x.significand + 2) * up
    denominator := twoTo (-e).toNat
    closed := x.significand % 2 = 0 }

/-- Whether the decimal `k * 10 ^ e` lies in the interval. -/
def Interval.contains (i : Interval) (k : Nat) (e : Int) : Bool :=
  let a := k * tenTo e.toNat * i.denominator
  let s := tenTo (-e).toNat
  if i.closed then i.low * s ≤ a && a ≤ i.high * s else i.low * s < a && a < i.high * s

/-! ## 2. Searching the decimal grids -/

/-- The power of ten of the leading digit of `n / d`, for `0 < n`. -/
def leadingPower (n d : Nat) : Int :=
  if d ≤ n then ((toString (n / d)).length : Int) - 1
  else
    let q := (d + n - 1) / n
    let len := (toString q).length
    if q = tenTo (len - 1) then 1 - (len : Int) else -(len : Int)

/-- The point of the grid of multiples of `10 ^ e` that lies in the interval and is nearest to
its value, if there is one. -/
def Interval.onGrid? (i : Interval) (e : Int) : Option Nat :=
  let a := i.value * tenTo (-e).toNat
  let b := i.denominator * tenTo e.toNat
  let near := roundHalfEven a b
  let floor := a / b
  let far := if near = floor then floor + 1 else floor
  if i.contains near e then some near
  else if i.contains far e then some far
  else none

/-- The first grid with a point in the interval, from the coarsest of the next `count` grids. -/
def Interval.search (i : Interval) : Nat → Int → Scientific
  | 0, e => ⟨roundHalfEven (i.value * tenTo (-e).toNat) (i.denominator * tenTo e.toNat), e⟩
  | count + 1, e =>
    match i.onGrid? e with
    | some k => ⟨k, e⟩
    | none => i.search count (e - 1)

/-- Removes the zeros at the end of the digits; a number of `n` digits has fewer than `n` of
them. -/
def Scientific.trim : Nat → Scientific → Scientific
  | 0, s => s
  | n + 1, s =>
    if s.digits ≠ 0 ∧ s.digits % 10 = 0 then trim n ⟨s.digits / 10, s.exponent + 1⟩ else s

/-- The shortest decimal that reads back as the double `x`. -/
def shortest (x : Binary) : Scientific :=
  if x.significand = 0 then ⟨0, 0⟩
  else
    let i := Interval.ofDouble x
    (i.search 18 (leadingPower i.value i.denominator + 1)).trim 20

/-! ## 3. Layout -/

/-- How a number is laid out: positional while the power of its leading digit lies in
`positionalFrom .. positionalTo`, otherwise with an exponent. -/
structure Layout where
  positionalFrom : Int
  positionalTo : Int

/-- Writes digits by a layout.  Positional whole numbers keep one zero after the point; an
exponent always carries its sign. -/
def Layout.write (l : Layout) (s : Scientific) : String :=
  let digits := toString s.digits
  let lead : Int := s.exponent + digits.length - 1
  if s.digits = 0 then "0.0"
  else if l.positionalFrom ≤ lead ∧ lead ≤ l.positionalTo then
    if 0 ≤ s.exponent then
      digits ++ String.ofList (List.replicate s.exponent.toNat '0') ++ ".0"
    else if 0 ≤ lead then
      let whole := lead.toNat + 1
      String.ofList (digits.toList.take whole) ++ "." ++ String.ofList (digits.toList.drop whole)
    else
      "0." ++ String.ofList (List.replicate (-lead - 1).toNat '0') ++ digits
  else
    let mantissa :=
      match digits.toList with
      | [] => ""
      | [d] => String.ofList [d]
      | d :: ds => String.ofList (d :: '.' :: ds)
    mantissa ++ "e" ++ (if 0 ≤ lead then "+" else "-") ++ toString lead.natAbs

end TidyTree.Decimal
