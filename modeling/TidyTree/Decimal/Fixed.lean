/-
TidyTree.Decimal.Fixed — numbers with a fixed count of decimal places.

`fixed places n d` writes the quotient `n / d` with exactly `places`
digits after the point, the exact value rounded half to even.
-/
import TidyTree.Decimal.Rounding

namespace TidyTree.Decimal

/-- The decimal digits of `n`, filled up with zeros in front to at least `width` digits. -/
def padded (width n : Nat) : String :=
  let digits := toString n
  String.ofList (List.replicate (width - digits.length) '0') ++ digits

/-- The quotient `n / d` with `places` digits after the point (at least one place). -/
def fixed (places n d : Nat) : String :=
  let units := roundHalfEven (n * tenTo places) d
  toString (units / tenTo places) ++ "." ++ padded places (units % tenTo places)

end TidyTree.Decimal
