/-
TidyTree.Tool.Awk.Value — values, and tables of values.

A value is a number or a text, and each can be taken for the other.
Text that comes from outside and looks like a number is compared as one.

A table has rows with names.  A row that was made for a whole number is
found by that number, and gets its name when one asks for names.  The
order in which the names are gone through is that of the chains of rows,
into which rows come by a sum over their names.
-/
import TidyTree.Tool.Awk.Reader

namespace TidyTree.Tool.Awk

open Shell (Quantity Spec WrittenSpec writtenSpec)

/-! ## 1. Numbers -/

/-- The quotient that a double stands for. -/
def realOf (x : Float) : Quantity :=
  if x.isNaN then .notANumber
  else if x.isInf then .infinite (x < 0)
  else
    let bits := x.toBits.toNat
    let exponent := bits / Decimal.twoTo 52 % 2048
    let rest := bits % Decimal.twoTo 52
    let significand := if exponent = 0 then rest else rest + Decimal.twoTo 52
    let (n, d) := Decimal.Binary.ratio ⟨significand, (max exponent 1 : Nat) - 1075⟩
    .quotient (bits / Decimal.twoTo 63 = 1) n d

/-- The whole number that is left when the fraction is dropped, within the bounds of a long word. -/
def wholeOf (x : Float) : Int :=
  if x.isNaN then 0
  else if x < 0 then -(min (-x).toUInt64.toNat (Decimal.twoTo 63) : Nat)
  else x.toUInt64.toNat

/-- Whether the number is a whole one that is shown with all its digits. -/
def isWhole (x : Float) : Bool :=
  x == x.floor && -9223372036854775808.0 ≤ x && x ≤ 18446744073709551616.0

/-- A number in the way of a layout that has one place for it. -/
def laidOut (s : Spec) (letter : Char) (x : Float) : String :=
  if x.isNaN then s.notFinite true (if letter.isUpper then "NAN" else "nan")
  else s.real letter (realOf x)

/-- The number at the front of a text, or zero. -/
def numberIn (s : String) : Float :=
  match Quantity.ofFront? s.toList with
  | some (x, _) => doubleOf x
  | none => 0.0

/-- The number that a text is, if it is one with nothing else but blanks around it. -/
def numberOf? (s : String) : Option Float :=
  let cs := s.toList.dropWhile CharClass.space.has
  let bare := (cs.reverse.dropWhile CharClass.space.has).reverse
  let begins := (bare.head?.map fun c => c.isDigit || ['+', '-', '.'].contains c).getD false
  let ends := (bare.getLast?.map fun c => c.isDigit || c = '.').getD false
  if ¬ (begins ∧ ends) then none
  else
    match Quantity.ofFront? bare with
    | some (x, []) => some (doubleOf x)
    | _ => none

/-! ## 2. Values -/

/-- A value. -/
inductive Value where
  | unset
  | number (x : Float)
  | text (s : String)
  /-- A text from outside that looks like a number. -/
  | numeric (s : String) (x : Float)

namespace Value

/-- The value of a text from outside. -/
def ofInput (s : String) : Value :=
  match numberOf? s with
  | some x => .numeric s x
  | none => .text s

/-- The value as a number. -/
def toNumber : Value → Float
  | unset => 0.0
  | number x => x
  | text s => numberIn s
  | numeric _ x => x

/-- The number, if the value is compared as one. -/
def number? : Value → Option Float
  | unset => some 0.0
  | number x => some x
  | text _ => none
  | numeric _ x => some x

/-- Whether the value counts as true. -/
def isTrue : Value → Bool
  | unset => false
  | number x => x != 0.0
  | text s => s ≠ ""
  | numeric _ x => x != 0.0

/-- The value of an answer. -/
def ofBool (b : Bool) : Value := .number (if b then 1.0 else 0.0)

end Value

/-! ## 3. Layouts -/

/-- What comes of laying out values: the text so far, and what is wrong if it could not be gone on
with. -/
abbrev LaidOut := String × Option String

/-- One value in the way of a letter; none if there is no such way. -/
def laidOutValue? (s : Spec) (letter : Char) (text : Value → String) (v : Value) : Option String :=
  match letter with
  | 'd' | 'i' => some (s.integer (wholeOf v.toNumber))
  | 'o' | 'x' | 'X' | 'u' =>
    let n := wholeOf v.toNumber
    let natural := (n % (Decimal.twoTo 64 : Nat)).toNat
    let base := if letter = 'o' then 8 else if letter = 'u' then 10 else 16
    some ({ s with alternate := s.alternate && letter ≠ 'u' }.natural base (letter = 'X') natural)
  | 'e' | 'f' | 'g' | 'E' | 'F' | 'G' => some (laidOut s letter v.toNumber)
  | 's' => some (s.text (text v))
  | 'c' =>
    let c := match v with
      | .text t => (t.toList.head?).getD '\x00'
      | .unset => '\x00'
      | .number x | .numeric _ x => Char.ofNat (wholeOf x % 256).toNat
    some (s.fill false "" c.toString)
  | _ => none

/-- Lays out values. -/
def layOut (text : Value → String) (whole : String) :
    (fuel : Nat) → List Char → List Value → LaidOut
  | 0, _, _ => ("", none)
  | _ + 1, [], _ => ("", none)
  | fuel + 1, '%' :: '%' :: cs, vs =>
    let (t, fault) := layOut text whole fuel cs vs
    ("%" ++ t, fault)
  | fuel + 1, '%' :: cs, vs =>
    let (w, rest) := writtenSpec cs
    let short : LaidOut :=
      ("", some ("not enough arguments passed to sprintf(\"" ++ whole ++ "\")"))
    let take (wanted : Bool) (vs : List Value) : Option (Int × List Value) :=
      if ¬ wanted then some (0, vs)
      else
        match vs with
        | v :: more => some (wholeOf v.toNumber, more)
        | [] => none
    match take w.widthGiven vs with
    | none => short
    | some (width, vs) =>
      match take w.precisionGiven vs with
      | none => short
      | some (precision, vs) =>
        match rest.dropWhile fun c => c = 'l' || c = 'h', vs with
        | _, [] | [], _ => short
        | letter :: more, v :: vs =>
          match laidOutValue? (w.toSpec width precision) letter text v with
          | none => ("", some ("bad conversion '" ++ letter.toString ++ "'"))
          | some shown =>
            let (t, fault) := layOut text whole fuel more vs
            (shown ++ t, fault)
  | fuel + 1, c :: cs, vs =>
    let front := (c :: cs).takeWhile (· ≠ '%')
    let (t, fault) := layOut text whole fuel ((c :: cs).drop front.length) vs
    (String.ofList front ++ t, fault)

/-- The text of a number: all digits of a whole one, others in the way of a layout. -/
def numberText (format : String) (x : Float) : String :=
  if isWhole x then toString (wholeOf x)
  else if format = "%.6g" then laidOut { Spec.bare with precision := some 6 } 'g' x
  else (layOut (fun _ => "") format (format.length + 1) format.toList [.number x]).1

/-- The text of a value. -/
def Value.toText (format : String) : Value → String
  | unset => ""
  | number x => numberText format x
  | text s => s
  | numeric s _ => s

/-- Compares two texts. -/
def compareTexts (a b : String) : Ordering :=
  if a = b then .eq else if a < b then .lt else .gt

/-- Compares two values, as numbers if both are such. -/
def Relation.holds (r : Relation) (format : String) (a b : Value) : Bool :=
  match a.number?, b.number? with
  | some x, some y =>
    match r with
    | less => x < y
    | atMost => x ≤ y
    | equal => x == y
    | unequal => x != y
    | atLeast => y ≤ x
    | more => y < x
  | _, _ =>
    let o := compareTexts (a.toText format) (b.toText format)
    match r with
    | less => o = .lt
    | atMost => o ≠ .gt
    | equal => o = .eq
    | unequal => o ≠ .eq
    | atLeast => o ≠ .lt
    | more => o = .gt

/-- The number that comes of an operation. -/
def Operation.apply (o : Operation) (x y : Float) : Float :=
  match o with
  | add => x + y
  | subtract => x - y
  | multiply => x * y
  | divide => x / y
  | remainder =>
    match realOf x, realOf y with
    | .quotient negative n d, .quotient _ m e =>
      if m = 0 then 0.0 / 0.0
      else doubleOf (.quotient negative (n * e % (m * d)) (d * e))
    | .quotient _ _ _, .infinite _ => x
    | _, _ => 0.0 / 0.0
  | power => Float.pow x y

/-! ## 4. Tables -/

/-- A row of a table. -/
structure Row where
  name : Option String
  number : Option Int
  value : Value

/-- A table: its rows, and the chains in which those with names and those with numbers are. -/
structure Table where
  rows : Array Row
  named : Array (List Nat)
  numbered : Array (List Nat)
  /-- Whether all rows have names. -/
  hasNames : Bool
  size : Nat

namespace Table

/-- How many chains a table has at first. -/
def firstChains : Nat := 64

/-- How many rows there are for each chain before there are more chains. -/
def chainLength : Nat := 12

/-- A table without rows. -/
def empty : Table :=
  ⟨#[], Array.replicate firstChains [], Array.replicate firstChains [], false, 0⟩

/-- The sum over a name by which its chain is chosen. -/
def nameSum (name : String) : Nat :=
  name.toList.foldl (fun h c => (h ^^^ c.toNat) * 16777619 % 4294967296) 2166136261

/-- The chain of a name. -/
def nameChain (t : Table) (name : String) : Nat := nameSum name % t.named.size

/-- The chain of a number. -/
def numberChain (t : Table) (n : Int) : Nat := (n % (t.numbered.size : Int)).toNat

/-- The row of a number. -/
def row? (t : Table) (id : Nat) : Option Row := t.rows[id]?

/-- The name of a row. -/
def nameOf (t : Table) (id : Nat) : Option String := (t.row? id).bind (·.name)

/-- The number of a row. -/
def numberOf (t : Table) (id : Nat) : Option Int := (t.row? id).bind (·.number)

/-- Puts a row in front of its chain of names. -/
def inFrontByName (t : Table) (id : Nat) (name : String) : Table :=
  { t with named := t.named.modify (t.nameChain name) fun ids => id :: ids.filter (· ≠ id) }

/-- Puts a row in front of its chain of numbers. -/
def inFrontByNumber (t : Table) (id : Nat) (n : Int) : Table :=
  { t with numbered := t.numbered.modify (t.numberChain n) fun ids => id :: ids.filter (· ≠ id) }

/-- Twice as many chains. -/
def widened (t : Table) : Table :=
  let count := t.named.size
  let wide : Table := { t with
    named := Array.replicate (2 * count) []
    numbered := Array.replicate (2 * count) [] }
  let parted (chains : Array (List Nat)) (chain : Nat → Nat) : Array (List Nat) :=
    (Array.range (2 * count)).map fun i =>
      ((chains[i % count]?).getD []).filter fun id => chain id = i
  { wide with
    named := parted t.named fun id => ((t.nameOf id).map wide.nameChain).getD 0
    numbered := parted t.numbered fun id => ((t.numberOf id).map wide.numberChain).getD 0 }

/-- Adds a row that is in no chain; gives its number. -/
def addRow (t : Table) (r : Row) : Table × Nat :=
  let id := t.rows.size
  let t := { t with rows := t.rows.push r, size := t.size + 1 }
  (if chainLength * t.named.size < t.size then t.widened else t, id)

/-- Gives names to the rows that have none. -/
def withNames (t : Table) : Table :=
  if t.hasNames then t
  else
    let ids := t.numbered.toList.flatten
    let named := ids.foldl (fun (t : Table) id =>
      match t.row? id with
      | some ⟨none, some n, _⟩ =>
        let name := toString n
        { t with
          rows := t.rows.modify id fun r => { r with name := some name } }.inFrontByName id name
      | _ => t) t
    { named with hasNames := true }

/-- Looks for the row of a name, which is made if that is asked for. -/
def findName (t : Table) (create : Bool) (name : String) : Table × Option Nat :=
  let t := t.withNames
  match ((t.named[t.nameChain name]?).getD []).find? fun id => t.nameOf id = some name with
  | some id => (t.inFrontByName id name, some id)
  | none =>
    if ¬ create then (t, none)
    else
      let (t, id) := t.addRow ⟨some name, none, .unset⟩
      (t.inFrontByName id name, some id)

/-- Looks for the row of a number, which is made if that is asked for. -/
def findNumber (t : Table) (create : Bool) (n : Int) : Table × Option Nat :=
  match ((t.numbered[t.numberChain n]?).getD []).find? fun id => t.numberOf id = some n with
  | some id => (t.inFrontByNumber id n, some id)
  | none =>
    if t.hasNames then
      match t.findName create (toString n) with
      | (t, none) => (t, none)
      | (t, some id) =>
        let t := { t with rows := t.rows.modify id fun r => { r with number := some n } }
        (t.inFrontByNumber id n, some id)
    else if ¬ create then (t, none)
    else
      let (t, id) := t.addRow ⟨none, some n, .unset⟩
      (t.inFrontByNumber id n, some id)

/-- Looks for the row that a value names. -/
def find (t : Table) (create : Bool) (format : String) (key : Value) : Table × Option Nat :=
  match key with
  | .number x =>
    if isWhole x ∧ -2147483648.0 ≤ x ∧ x ≤ 2147483647.0 then t.findNumber create (wholeOf x)
    else t.findName create (key.toText format)
  | _ => t.findName create (key.toText format)

/-- The value in a row. -/
def valueAt (t : Table) (id : Nat) : Value := ((t.row? id).map (·.value)).getD .unset

/-- Gives a value to a row. -/
def setAt (t : Table) (id : Nat) (v : Value) : Table :=
  { t with rows := t.rows.modify id fun r => { r with value := v } }

/-- Removes a row. -/
def remove (t : Table) (id : Nat) : Table :=
  if t.size ≤ 1 then .empty
  else
    let without (chains : Array (List Nat)) : Array (List Nat) := chains.map (·.filter (· ≠ id))
    { t with named := without t.named, numbered := without t.numbered, size := t.size - 1 }

/-- The names of all rows in the order of the chains. -/
def names (t : Table) : Table × List String :=
  let t := t.withNames
  (t, t.named.toList.flatten.filterMap t.nameOf)

/-- The table of some values, which are numbered from one on. -/
def ofList (vs : List Value) : Table :=
  (vs.zipIdx 1).foldl (fun t (v, n) =>
    match t.findNumber true n with
    | (t, some id) => t.setAt id v
    | (t, none) => t) .empty

end Table

end TidyTree.Tool.Awk
