/-
TidyTree.Tool.Dump — showing the bytes of files.

The bytes are shown in rows, each with the place of its first byte.  A
row is shown once in each of the chosen ways, and the ways are spread so
that what belongs together stands in one column.
-/
import TidyTree.Tool.Files

namespace TidyTree.Tool

open Shell

/-! ## 1. Ways to show bytes -/

/-- How one element is shown. -/
inductive ElementKind where
  | named | character | signed | octal | unsigned | hexadecimal | real
deriving DecidableEq

/-- A way to show the bytes: so many at a time, and whether they stand behind the row as text. -/
structure DumpWay where
  kind : ElementKind
  size : Nat
  hasText : Bool

/-- How many characters an element takes. -/
def DumpWay.width (w : DumpWay) : Nat :=
  let of (widths : List Nat) : Nat :=
    let row := if w.size = 1 then 0 else if w.size = 2 then 1 else if w.size = 4 then 2 else 3
    (widths[row]?).getD 3
  match w.kind with
  | .named | .character => 3
  | .signed => of [4, 6, 11, 20]
  | .octal => of [3, 6, 11, 22]
  | .unsigned => of [3, 5, 10, 20]
  | .hexadecimal => of [2, 4, 8, 16]
  | .real => of [0, 0, 15, 24]

/-- The names of the characters that do not show themselves. -/
def controlNames : List String :=
  ["nul", "soh", "stx", "etx", "eot", "enq", "ack", "bel", "bs", "ht", "nl", "vt", "ff", "cr",
    "so", "si", "dle", "dc1", "dc2", "dc3", "dc4", "nak", "syn", "etb", "can", "em", "sub", "esc",
    "fs", "gs", "rs", "us", "sp"]

/-- The digits of a number, with zeros in front of them. -/
def filledDigits (base width n : Nat) : String :=
  zeroFilled width (String.ofList (Nat.toDigits base n))

/-- The number that the bits of a floating point number stand for. -/
def realOfBits (f : Decimal.BinaryFormat) (bits n : Nat) : Quantity :=
  let fractionBits := f.bits - 1
  let scale := Decimal.twoTo fractionBits
  let exponent := n / scale % Decimal.twoTo (bits - f.bits)
  let fraction := n % scale
  let negative := n / Decimal.twoTo (bits - 1) = 1
  if exponent + 1 = Decimal.twoTo (bits - f.bits) then
    if fraction = 0 then .infinite negative else .notANumber
  else
    let x : Decimal.Binary := if exponent = 0 then ⟨fraction, f.least⟩
      else ⟨fraction + scale, f.least + (exponent - 1 : Nat)⟩
    .quotient negative x.ratio.1 x.ratio.2

/-- Whether a number is too small to have all the bits of a format. -/
def isTiny (f : Decimal.BinaryFormat) : Quantity → Bool
  | .quotient _ n d => n ≠ 0 && n * Decimal.twoTo (-f.least).toNat < d * Decimal.twoTo (f.bits - 1)
  | _ => false

/-- A number with the fewest digits, but at least `digits`, from which it is read back. -/
def realText (f : Decimal.BinaryFormat) (x : Quantity) : (tries : Nat) → (digits : Nat) → String
  | 0, digits => Spec.real { Spec.bare with precision := some digits } 'g' x
  | tries + 1, digits =>
    let t := Spec.real { Spec.bare with precision := some digits } 'g' x
    match x, Quantity.ofFront? t.toList with
    | .quotient _ n d, some (.quotient _ a b, _) =>
      if f.round a b = f.round n d then t else realText f x tries (digits + 1)
    | _, _ => t

/-- An element as it is shown; the first of its bytes counts least. -/
def DumpWay.element (w : DumpWay) (bytes : List Char) : String :=
  let value := bytes.foldr (fun c n => n * 256 + c.toNat) 0
  match w.kind with
  | .named =>
    let n := value % 128
    if n = 127 then "del" else (controlNames[n]?).getD (Char.ofNat n).toString
  | .character =>
    let c := Char.ofNat value
    if isPrintable c then c.toString
    else
      match [('\x00', "\\0"), ('\x07', "\\a"), ('\x08', "\\b"), ('\x0c', "\\f"), ('\n', "\\n"),
        ('\r', "\\r"), ('\t', "\\t"), ('\x0b', "\\v")].lookup c with
      | some t => t
      | none => filledDigits 8 3 value
  | .signed =>
    let limit := Decimal.twoTo (8 * w.size - 1)
    if value < limit then toString value else "-" ++ toString (2 * limit - value)
  | .octal => filledDigits 8 w.width value
  | .unsigned => toString value
  | .hexadecimal => filledDigits 16 w.width value
  | .real =>
    let f := if w.size = 4 then Decimal.BinaryFormat.single else .double
    let most := if w.size = 4 then 9 else 17
    let x := realOfBits f (8 * w.size) value
    let least := if isTiny f x then 1 else if w.size = 4 then 6 else 15
    realText f x (most - least) least

/-- The row of some bytes, of which there may be `row` in a row that takes `room` characters. -/
def DumpWay.rowText (w : DumpWay) (row room : Nat) (bytes : List Char) : String :=
  let fields := row / w.size
  let padding := room - (w.width + 1) * fields
  let count := (bytes.length + w.size - 1) / w.size
  let shown := (List.range count).map fun i =>
    let left := fields - i
    let extra := padding * left / fields - padding * (left - 1) / fields
    let part := (bytes.drop (i * w.size)).take w.size
    let filled := part ++ List.replicate (w.size - part.length) '\x00'
    let t := w.element filled
    " " ++ Spec.repeated (extra + w.width - t.length) ' ' ++ t
  let used := String.join shown
  if w.hasText then
    used ++ Spec.repeated (room - used.length) ' ' ++ "  >" ++
      String.ofList (bytes.map fun c => if isPrintable c then c else '.') ++ "<"
  else used

/-! ## 2. Reading -/

/-- The ways that a text names. -/
def dumpWays (whole : String) : (fuel : Nat) → List Char → Except String (List DumpWay)
  | 0, _ => .ok []
  | _ + 1, [] => .ok []
  | fuel + 1, c :: cs =>
    let kind? : Option ElementKind := match c with
      | 'a' => some .named
      | 'c' => some .character
      | 'd' => some .signed
      | 'o' => some .octal
      | 'u' => some .unsigned
      | 'x' => some .hexadecimal
      | 'f' => some .real
      | _ => none
    match kind? with
    | none => .error ("invalid character '" ++ c.toString ++ "' in type string " ++ quoted whole)
    | some kind =>
      let isText := kind = .named ∨ kind = .character
      let sized : Nat × List Char :=
        if isText then (1, cs)
        else
          match cs with
          | 'C' :: rest => (1, rest)
          | 'S' :: rest => (2, rest)
          | 'I' :: rest => (4, rest)
          | 'L' :: rest => (8, rest)
          | 'F' :: rest => (if kind = .real then 4 else 1, if kind = .real then rest else cs)
          | 'D' :: rest => (8, if kind = .real then rest else cs)
          | _ =>
            match leadingNumber cs with
            | (some n, rest) => (n, rest)
            | (none, rest) => (if kind = .real then 8 else 4, rest)
      let (size, rest) := sized
      if kind = .real ∧ ¬ [4, 8].contains size then
        .error ("invalid type string " ++ quoted whole ++ ";\nthis system doesn't provide a " ++
          toString size ++ "-byte floating point type")
      else if ¬ [1, 2, 4, 8].contains size then
        .error ("invalid type string " ++ quoted whole ++ ";\nthis system doesn't provide a " ++
          toString size ++ "-byte integral type")
      else
        let (hasText, rest) := match rest with
          | 'z' :: rest => (true, rest)
          | _ => (false, rest)
        (dumpWays whole fuel rest).map (⟨kind, size, hasText⟩ :: ·)

/-- The ways that the letters of options stand for. -/
def letterWays : List (String × String) :=
  [("a", "a"), ("b", "o1"), ("c", "c"), ("d", "u2"), ("e", "fD"), ("f", "fF"), ("i", "dI"),
    ("l", "dL"), ("o", "o2"), ("s", "d2"), ("x", "x2"), ("B", "o2"), ("D", "u4"), ("F", "fD"),
    ("h", "x2"), ("H", "x4"), ("I", "dL"), ("L", "dL"), ("O", "o4"), ("X", "x4")]

/-- The place of a byte as it is shown in front of a row. -/
def placeText (radix : Char) (n : Nat) : String :=
  match radix with
  | 'd' => filledDigits 10 7 n
  | 'x' => filledDigits 16 6 n
  | 'n' => ""
  | _ => filledDigits 8 7 n

/-! ## 3. Rows -/

/-- The rows of some bytes from a place on; a row like the one before it is left out unless all are
wanted, and a star shows that. -/
def dumpRows (ways : List DumpWay) (radix : Char) (row room : Nat) (all : Bool) :
    (fuel : Nat) → (place : Nat) → (before : Option (List Char)) → (starred : Bool) → List Char →
    List String
  | 0, _, _, _, _ => []
  | fuel + 1, place, before, starred, cs =>
    if cs.isEmpty then if radix = 'n' then [] else [placeText radix place]
    else
      let bytes := cs.take row
      let go (starred : Bool) : List String :=
        dumpRows ways radix row room all fuel (place + bytes.length) (some bytes) starred
          (cs.drop row)
      if ¬ all ∧ before = some bytes ∧ bytes.length = row then
        if starred then go true else "*" :: go true
      else
        let front := placeText radix place
        let texts := ways.map fun w => w.rowText row room bytes
        let rows := match texts with
          | [] => []
          | t :: more => (front ++ t) :: more.map (Spec.repeated front.length ' ' ++ ·)
        rows ++ go false

/-- The texts of at least so many characters that a zero ends, each with its place. -/
def textsIn (least : Nat) : (place : Nat) → (done : List Char) → List Char → List (Nat × String)
  | _, _, [] => []
  | place, done, c :: cs =>
    if isPrintable c then textsIn least (place + 1) (c :: done) cs
    else
      let rest := textsIn least (place + 1) [] cs
      if c = '\x00' ∧ least ≤ done.length then
        (place - done.length, String.ofList done.reverse) :: rest
      else rest

/-- Shows the bytes of files. -/
def od (args : List String) : Act Nat := do
  let table := ((OptionTable.letters "abcdefiloshxvBDFHILOX" "AjNtS").withFlags
    [("output-duplicates", "v"), ("traditional", "traditional")]).withValues
    [("address-radix", "A"), ("skip-bytes", "j"), ("read-bytes", "N"), ("format", "t")]
  let g ← given ({ table with loose := "w" }.withLoose [("width", "w")]) 1 args
  let amount (key what : String) : Act (Option Nat) := do
    match g.value? key with
    | none => return none
    | some v =>
      match amount? v with
      | some n => return some n
      | none => refuse 1 ("invalid " ++ what ++ " argument " ++ quoted v)
  let radix := ((g.value? "A").map fun a => a.toList.headD 'q').getD 'o'
  if ¬ ['o', 'd', 'x', 'n'].contains radix then
    refuse 1 ("invalid output address radix '" ++ radix.toString ++
      "'; it must be one character from [doxn]")
  let skipped := (← amount "j" "-j").getD 0
  let most ← amount "N" "-N"
  let least ← amount "S" "-S"
  let written := g.options.filterMap fun (k, v) => if k = "t" then some v else letterWays.lookup k
  let ways ← (if written.isEmpty then ["o2"] else written).mapM fun t =>
    match dumpWays t (t.length + 1) t.toList with
    | .ok ws => pure ws
    | .error e => refuse 1 e
  let ways := ways.flatten
  let row := match g.value? "w" with
    | some "" => 32
    | some v => (amount? v).getD 16
    | none => 16
  let largest := ways.foldl (fun n w => max n w.size) 1
  if row = 0 ∨ row % largest ≠ 0 then
    complain ("warning: invalid width " ++ toString row ++ "; using " ++ toString largest ++
      " instead")
  let row := if row = 0 ∨ row % largest ≠ 0 then largest else row
  let texts ← (if g.operands.isEmpty then ["-"] else g.operands).mapM fun p => do
    match ← inputText p with
    | .ok t => return (some t, true)
    | .error e =>
      complain (p ++ ": " ++ e.text)
      return (if e = .isDirectory then some "" else none, false)
  let there := texts.filterMap Prod.fst
  let status := if texts.all Prod.snd then 0 else 1
  if there.isEmpty then return status
  let bytes := there.flatMap String.toList
  if bytes.length < skipped then
    refuse 1 "cannot skip past end of combined input"
  let bytes := bytes.drop skipped
  let bytes := match most with
    | some n => bytes.take n
    | none => bytes
  match least with
  | some n =>
    let found := textsIn n skipped [] bytes
    let shown (place : Nat) : String := if radix = 'n' then "" else placeText radix place ++ " "
    let result ← printAll (String.join (found.map fun (place, t) => shown place ++ t ++ "\n"))
    return max status result
  | none => pure ()
  let room := ways.foldl (fun n w => max n ((w.width + 1) * (row / w.size))) 0
  let rows := dumpRows ways radix row room (g.has "v") (bytes.length + 2) skipped none false bytes
  let result ← printAll (String.join (rows.map (· ++ "\n")))
  return max status result

end TidyTree.Tool
