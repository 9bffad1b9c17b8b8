/-
TidyTree.Shell.Format — values laid out in fields.

A `Spec` says how wide a field is, on which side it is filled and with
how many digits a number is written.  Fractions are kept as quotients of
natural numbers, so that every digit written is exact.
-/
import TidyTree.Decimal.Shortest

namespace TidyTree.Shell

open Decimal (tenTo roundHalfEven leadingPower)

/-! ## 1. Fields -/

/-- How a value is laid out. -/
structure Spec where
  left : Bool
  plus : Bool
  space : Bool
  alternate : Bool
  zero : Bool
  width : Nat
  precision : Option Nat

namespace Spec

/-- As it comes. -/
def bare : Spec := ⟨false, false, false, false, false, 0, none⟩

/-- A text of the same character. -/
def repeated (n : Nat) (c : Char) : String := String.ofList (List.replicate n c)

/-- The field with some sign in front and a body; zeros fill it between the two. -/
def fill (s : Spec) (zeros : Bool) (sign body : String) : String :=
  let gap := s.width - (sign.length + body.length)
  if s.left then sign ++ body ++ repeated gap ' '
  else if zeros then sign ++ repeated gap '0' ++ body
  else repeated gap ' ' ++ sign ++ body

/-- A text, of which at most `precision` characters are shown. -/
def text (s : Spec) (t : String) : String :=
  let t := match s.precision with
    | some p => String.ofList (t.toList.take p)
    | none => t
  s.fill false "" t

/-- The sign in front of a number. -/
def signOf (s : Spec) (negative : Bool) : String :=
  if negative then "-" else if s.plus then "+" else if s.space then " " else ""

/-- The digits with zeros in front up to the precision. -/
def padded (s : Spec) (digits : String) : String :=
  match s.precision with
  | some 0 => if digits = "0" then "" else digits
  | some p => repeated (p - digits.length) '0' ++ digits
  | none => digits

/-- A whole number with a sign. -/
def integer (s : Spec) (n : Int) : String :=
  s.fill (s.zero && s.precision.isNone) (s.signOf (n < 0)) (s.padded (toString n.natAbs))

/-- A natural number in base eight, ten or sixteen. -/
def natural (s : Spec) (base : Nat) (upper : Bool) (n : Nat) : String :=
  let digits := String.ofList (Nat.toDigits base n)
  let digits := if upper then digits.map Char.toUpper else digits
  let body := s.padded digits
  let body := if s.alternate ∧ base = 8 ∧ body.toList.head? ≠ some '0' then "0" ++ body else body
  let sign :=
    if s.alternate ∧ base = 16 ∧ n ≠ 0 then (if upper then "0X" else "0x") else ""
  s.fill (s.zero && s.precision.isNone) sign body

/-! ## 2. Fractions -/

/-- The digits of a number of units, with a point before the last `places`. -/
def withPoint (alternate : Bool) (units places : Nat) : String :=
  let digits := toString units
  let digits := repeated (places + 1 - digits.length) '0' ++ digits
  let whole := digits.toList.take (digits.length - places)
  let part := digits.toList.drop (digits.length - places)
  String.ofList whole ++ (if places = 0 ∧ alternate = false then "" else ".") ++ String.ofList part

/-- The quotient `n / d` with so many places. -/
def fixedDigits (s : Spec) (n d places : Nat) : String :=
  withPoint s.alternate (roundHalfEven (n * tenTo places) d) places

/-- The quotient `n / d` as digits of which `places` follow the first one, and the power of ten of
the first one. -/
def scientificParts (n d places : Nat) : Nat × Int :=
  if n = 0 then (0, 0)
  else
    let lead := leadingPower n d
    let e := lead - places
    let units := roundHalfEven (n * tenTo (-e).toNat) (d * tenTo e.toNat)
    if units = tenTo (places + 1) then (tenTo places, lead + 1) else (units, lead)

/-- The power of ten behind the digits. -/
def exponentText (mark : Char) (e : Int) : String :=
  let digits := toString e.natAbs
  mark.toString ++ (if e < 0 then "-" else "+") ++ (if digits.length < 2 then "0" else "") ++ digits

/-- The quotient `n / d` with a power of ten. -/
def scientificDigits (s : Spec) (mark : Char) (n d places : Nat) : String :=
  let (units, e) := scientificParts n d places
  withPoint s.alternate units places ++ exponentText mark e

/-- The text without zeros behind the point, and without the point if nothing follows it. -/
def withoutZeros (t : String) : String :=
  if t.toList.contains '.' then
    let kept := t.toList.reverse.dropWhile (· = '0')
    String.ofList ((if kept.head? = some '.' then kept.tail else kept).reverse)
  else t

/-- The quotient `n / d` with `precision` digits, in the shorter of the two ways. -/
def generalDigits (s : Spec) (mark : Char) (n d : Nat) : String :=
  let p := max 1 (s.precision.getD 6)
  let (units, e) := scientificParts n d (p - 1)
  if -4 ≤ e ∧ e < p then
    let places := ((p : Int) - 1 - e).toNat
    let t := fixedDigits s n d places
    if s.alternate then t else withoutZeros t
  else
    let t := withPoint s.alternate units (p - 1)
    (if s.alternate then t else withoutZeros t) ++ exponentText mark e

/-- The quotient `n / d` with a sign, in the way of one of the letters `e`, `f` and `g`. -/
def fraction (s : Spec) (conversion : Char) (negative : Bool) (n d : Nat) : String :=
  let lower := conversion.toLower
  let mark := if conversion.isUpper then 'E' else 'e'
  let body :=
    if lower = 'f' then fixedDigits s n d (s.precision.getD 6)
    else if lower = 'e' then scientificDigits s mark n d (s.precision.getD 6)
    else generalDigits s mark n d
  s.fill s.zero (s.signOf negative) body

/-- A text that stands for a number that has no digits. -/
def notFinite (s : Spec) (negative : Bool) (t : String) : String :=
  s.fill false (s.signOf negative) t

end Spec

/-! ## 3. Reading a layout -/

/-- The number that the digits at the front of a text write, if there are any, and what follows
them. -/
def leadingNumber (cs : List Char) : Option Nat × List Char :=
  let ds := cs.takeWhile Char.isDigit
  (if ds.isEmpty then none else some (ds.foldl (fun n c => n * 10 + (c.toNat - 48)) 0),
    cs.drop ds.length)

/-- A layout as it is written: a width or a precision may still be taken from an argument. -/
structure WrittenSpec where
  flags : List Char
  widthGiven : Bool
  width : Option Nat
  hasPrecision : Bool
  precisionGiven : Bool
  precision : Option Nat

/-- Reads a layout from behind the percent sign; gives what follows it, the letter first. -/
def writtenSpec (cs : List Char) : WrittenSpec × List Char :=
  let flags := cs.takeWhile fun c => ['#', '-', '+', ' ', '0'].contains c
  let cs := cs.drop flags.length
  let (widthGiven, width, cs) :=
    match cs with
    | '*' :: rest => (true, none, rest)
    | _ => let (n, rest) := leadingNumber cs; (false, n, rest)
  match cs with
  | '.' :: '*' :: rest => (⟨flags, widthGiven, width, true, true, none⟩, rest)
  | '.' :: rest =>
    let (n, rest) := leadingNumber rest
    (⟨flags, widthGiven, width, true, false, n⟩, rest)
  | _ => (⟨flags, widthGiven, width, false, false, none⟩, cs)

/-- The layout, once width and precision are known; a negative width fills on the right and a
negative precision counts as none. -/
def WrittenSpec.toSpec (w : WrittenSpec) (width precision : Int) : Spec :=
  let width := if w.widthGiven then width else (w.width.getD 0 : Nat)
  { left := w.flags.contains '-' || width < 0
    plus := w.flags.contains '+'
    space := w.flags.contains ' '
    alternate := w.flags.contains '#'
    zero := w.flags.contains '0' && !(w.flags.contains '-' || width < 0)
    width := width.natAbs
    precision :=
      if w.precisionGiven then (if precision < 0 then none else some precision.toNat)
      else if w.hasPrecision then some (w.precision.getD 0)
      else none }

/-! ## 4. Numbers with a fraction -/

/-- A number with a sign as a quotient, or one that has no digits. -/
inductive Quantity where
  | quotient (negative : Bool) (n d : Nat)
  | infinite (negative : Bool)
  | notANumber
deriving Repr

/-- The digits of a decimal number with a fraction, how many of them follow the point, and what
follows them all. -/
def decimalDigits (cs : List Char) : List Char × Nat × List Char :=
  let whole := cs.takeWhile Char.isDigit
  match cs.drop whole.length with
  | '.' :: rest =>
    let part := rest.takeWhile Char.isDigit
    (whole ++ part, part.length, rest.drop part.length)
  | rest => (whole, 0, rest)

/-- The number at the front of a text, blanks before it allowed, and what follows it. -/
def Quantity.ofFront? (cs : List Char) : Option (Quantity × List Char) :=
  let cs := cs.dropWhile fun c => c = ' ' || (9 ≤ c.toNat && c.toNat ≤ 13)
  let (negative, cs) :=
    match cs with
    | '-' :: rest => (true, rest)
    | '+' :: rest => (false, rest)
    | _ => (false, cs)
  let lower := cs.map Char.toLower
  if "infinity".toList.isPrefixOf lower then some (.infinite negative, cs.drop 8)
  else if "inf".toList.isPrefixOf lower then some (.infinite negative, cs.drop 3)
  else if "nan".toList.isPrefixOf lower then some (.notANumber, cs.drop 3)
  else
    let hexDigit (c : Char) : Bool := c.isDigit || (97 ≤ c.toNat && c.toNat ≤ 102)
    match lower with
    | '0' :: 'x' :: d :: _ =>
      if hexDigit d then
        let ds := (lower.drop 2).takeWhile hexDigit
        let value (c : Char) : Nat := if c.isDigit then c.toNat - 48 else c.toNat - 87
        some (.quotient negative (ds.foldl (fun n c => n * 16 + value c) 0) 1,
          cs.drop (2 + ds.length))
      else some (.quotient negative 0 1, cs.drop 1)
    | _ =>
      let (ds, places, rest) := decimalDigits cs
      if ds.isEmpty then none
      else
        let n := ds.foldl (fun n c => n * 10 + (c.toNat - 48)) 0
        let power? : Option (Int × List Char) :=
          match rest with
          | e :: more =>
            if e = 'e' ∨ e = 'E' then
              let (sign, more) : Int × List Char :=
                match more with
                | '-' :: m => (-1, m)
                | '+' :: m => (1, m)
                | _ => (1, more)
              match leadingNumber more with
              | (some k, rest) => some (sign * (min k 5000 : Nat), rest)
              | (none, _) => none
            else none
          | [] => none
        let (power, rest) := power?.getD (0, rest)
        some
          (.quotient negative (n * tenTo power.toNat) (tenTo places * tenTo (-power).toNat), rest)

/-- The double that is nearest to the number. -/
def Quantity.toDouble : Quantity → Quantity
  | .quotient negative n d =>
    match Decimal.BinaryFormat.double.round n d with
    | some x => .quotient negative x.ratio.1 x.ratio.2
    | none => .infinite negative
  | other => other

/-- The number laid out in the way of a letter. -/
def Spec.real (s : Spec) (conversion : Char) (x : Quantity) : String :=
  let cased (t : String) : String := if conversion.isUpper then t.map Char.toUpper else t
  match x with
  | .quotient negative n d => s.fraction conversion negative n d
  | .infinite negative => s.notFinite negative (cased "inf")
  | .notANumber => s.notFinite false (cased "nan")

end TidyTree.Shell
