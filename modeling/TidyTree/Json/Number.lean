/-
TidyTree.Json.Number — numbers in a JSON text.

A number is first read as text: a sign, digits, and perhaps a fraction
and an exponent (`Literal`).  What it means is decided afterwards: a
whole number that fits 64 bits is itself, everything else is the double
that `Literal.value` computes.  That computation rounds more than once,
so it need not give the double nearest to the text.
-/
import TidyTree.Json.Scan
import TidyTree.Decimal.Shortest

namespace TidyTree.Json

/-! ## 1. The text of a number -/

/-- A number as it is written; digits are kept as their values. -/
structure Literal where
  negative : Bool
  whole : List Nat
  fraction : Option (List Nat)
  exponent : Option (Bool × List Nat)
deriving DecidableEq, Repr

/-- The value of a decimal digit. -/
def digit? (c : Char) : Option Nat :=
  if '0' ≤ c ∧ c ≤ '9' then some (c.toNat - '0'.toNat) else none

/-- Splits off the digits at the front. -/
def spanDigits : List Char → List Nat × List Char
  | [] => ([], [])
  | c :: cs =>
    match digit? c with
    | some d => let (ds, r) := spanDigits cs; (d :: ds, r)
    | none => ([], c :: cs)

/-- Splitting off digits loses no character. -/
theorem length_spanDigits (cs : List Char) :
    (spanDigits cs).1.length + (spanDigits cs).2.length = cs.length := by
  induction cs with
  | nil => rfl
  | cons c cs ih =>
    unfold spanDigits
    split
    · simp only [List.length_cons]; omega
    · simp

/-- What is left after the digits at the front. -/
def afterDigits (cs : List Char) : Remains cs :=
  ⟨(spanDigits cs).2, by
    have := length_spanDigits cs
    omega⟩

/-- Reads the digits before the point: a zero alone, or digits that do not begin with one. -/
def readWhole (atEnd : Cause) (cs : List Char) : Reading (List Nat) cs :=
  match cs with
  | [] => .error (.before atEnd [])
  | c :: r =>
    match digit? c with
    | none => .error (.into .invalidNumber (c :: r))
    | some 0 =>
      if r.head?.any (fun e => (digit? e).isSome) then .error (.into .invalidNumber r)
      else .ok ([0], .tail c r)
    | some d =>
      .ok (d :: (spanDigits r).1, (afterDigits r).behind c)

/-- Reads the fraction, if there is one. -/
def readFraction (atEnd : Cause) (cs : List Char) :
    Except Failure (Option (List Nat) × Remains cs) :=
  match cs with
  | '.' :: r =>
    if (spanDigits r).1.isEmpty then
      match r with
      | [] => .error (.before atEnd [])
      | r => .error (.into .invalidNumber r)
    else
      .ok (some (spanDigits r).1, (afterDigits r).skip)
  | cs => .ok (none, .all cs)

/-- Reads the digits of an exponent. -/
def readPower (atEnd : Cause) (cs : List Char) : Except Failure (List Nat × Remains cs) :=
  match cs with
  | [] => .error (.before atEnd [])
  | c :: r =>
    match digit? c with
    | none => .error (.into .invalidNumber (c :: r))
    | some d => .ok (d :: (spanDigits r).1, (afterDigits r).skip)

/-- Reads the exponent, if there is one. -/
def readExponent (atEnd : Cause) (cs : List Char) :
    Except Failure (Option (Bool × List Nat) × Remains cs) :=
  match cs with
  | [] => .ok (none, .all [])
  | c :: r =>
    if c = 'e' ∨ c = 'E' then
      let (negative, signless) : Bool × Remains r :=
        match r with
        | '-' :: t => (true, (Remains.all t).skip)
        | '+' :: t => (false, (Remains.all t).skip)
        | t => (false, .all t)
      match readPower atEnd signless.val with
      | .error e => .error e
      | .ok (ds, t) => .ok (some (negative, ds), (signless.orLess t).skip)
    else .ok (none, .all (c :: r))

/-- Reads the number after its sign.  Where the text ends within it, the failure has the cause
`atEnd`. -/
def readUnsigned (negative : Bool) (atEnd : Cause) (cs : List Char) : Reading Literal cs :=
  match readWhole atEnd cs with
  | .error e => .error e
  | .ok (whole, r) =>
    match readFraction atEnd r.val with
    | .error e => .error e
    | .ok (fraction, s) =>
      match readExponent atEnd s.val with
      | .error e => .error e
      | .ok (exponent, t) =>
        .ok (⟨negative, whole, fraction, exponent⟩, r.orLess (s.orLess t))

/-! ## 2. What a number means -/

/-- A number: a whole one that fits 64 bits, or a double with its sign. -/
inductive Number where
  | integer (n : Int)
  | float (negative : Bool) (value : Decimal.Binary)
deriving Repr

/-- The first number that no longer fits 64 bits. -/
def wordLimit : Nat := Decimal.twoTo 64

/-- Adds digits to a 64-bit number until the next one no longer fits; also gives how many were
left out. -/
def appendDigits : Nat → List Nat → Nat × Nat
  | n, [] => (n, 0)
  | n, d :: ds =>
    if n * 10 + d < wordLimit then appendDigits (n * 10 + d) ds else (n, ds.length + 1)

/-- The value of the digits of an exponent while it fits 31 bits, or how many digits follow the
one with which it no longer does. -/
def powerOf : Nat → List Nat → Except Nat Nat
  | n, [] => .ok n
  | n, d :: ds =>
    if n * 10 + d < Decimal.twoTo 31 then powerOf (n * 10 + d) ds else .error ds.length

/-- The double nearest to a quotient, if it is in range. -/
def double? (n d : Nat) : Option Decimal.Binary := Decimal.BinaryFormat.double.round n d

/-- The double nearest to `10 ^ n`, for `n` up to 308. -/
def powerOfTen (n : Nat) : Decimal.Binary := (double? (Decimal.tenTo n) 1).getD .zero

/-- The double `f` times `10 ^ e`, in steps that each round; `none` if it gets too large.  A
number below `2 ^ 64` divided by `10 ^ 308` twice is zero, so three steps are enough. -/
def scale : Nat → Decimal.Binary → Int → Option Decimal.Binary
  | 0, _, _ => some .zero
  | n + 1, f, e =>
    if e.natAbs ≤ 308 then
      let (a, b) := if 0 ≤ e then f.mul (powerOfTen e.natAbs) else f.div (powerOfTen e.natAbs)
      double? a b
    else if f.significand = 0 then some f
    else if 0 ≤ e then none
    else
      let (a, b) := f.div (powerOfTen 308)
      scale n ((double? a b).getD .zero) (e + 308)

/-- What the digits of a number mean, or how many of its last characters lie after the place
where it turned out to be too large. -/
def Literal.value (l : Literal) : Except Nat Number :=
  let (whole, dropped) := appendDigits 0 l.whole
  if l.fraction.isNone ∧ l.exponent.isNone ∧ dropped = 0 then
    if l.negative = false then .ok (.integer whole)
    else if whole = 0 ∨ Decimal.twoTo 63 < whole then
      .ok (.float true ((double? whole 1).getD .zero))
    else .ok (.integer (-whole))
  else
    let places := l.fraction.getD []
    let (significand, unused) := appendDigits whole places
    let shift : Int := dropped - (places.length - unused : Nat)
    let f := (double? significand 1).getD .zero
    let finish (e : Int) : Except Nat Number :=
      match scale 4 f e with
      | some v => .ok (.float l.negative v)
      | none => .error 0
    match l.exponent with
    | none => finish shift
    | some (negative, ds) =>
      match powerOf 0 ds with
      | .ok e => finish (if negative then shift - e else shift + e)
      | .error after =>
        if significand ≠ 0 ∧ negative = false then .error after
        else .ok (.float l.negative .zero)

/-- Doubles are written positionally from 0.00001 up to sixteen digits before the point. -/
def layout : Decimal.Layout := ⟨-5, 15⟩

/-- What a number is called when it stands where something else was expected. -/
def Number.found : Number → Found
  | .integer n => .integer n
  | .float negative v =>
    .float ((if negative then "-" else "") ++ layout.write (Decimal.shortest v))

/-- Reads a number after its sign and gives what it means. -/
def readNumber (negative : Bool) (cs : List Char) : Reading Number cs :=
  match readUnsigned negative .endInValue cs with
  | .error e => .error e
  | .ok (l, r) =>
    match l.value with
    | .ok n => .ok (n, r)
    | .error after => .error ⟨.numberOutOfRange, byteLength r.val + after⟩

end TidyTree.Json
