/-
TidyTree.Tool.Order — tools for the order of lines.

`sort` compares lines by keys, which are parts of them, and at last by
all their bytes.  `uniq` looks at lines that follow one another and
`comm` at two texts that are in order.
-/
import TidyTree.Tool.Lines

namespace TidyTree.Tool

open Shell

/-! ## 1. Numbers -/

/-- A decimal number: its sign, the digits before the point without zeros in front, and those
behind it without zeros at the end. -/
structure DecimalText where
  negative : Bool
  whole : List Char
  part : List Char

/-- The number at the front of a text, blanks before it allowed. -/
def DecimalText.ofFront (cs : List Char) : DecimalText :=
  let cs := cs.dropWhile fun c => c = ' ' || c = '\t'
  let (negative, cs) := match cs with
    | '-' :: rest => (true, rest)
    | _ => (false, cs)
  let whole := cs.takeWhile Char.isDigit
  let part := match cs.drop whole.length with
    | '.' :: rest => rest.takeWhile Char.isDigit
    | _ => []
  ⟨negative, whole.dropWhile (· = '0'), (part.reverse.dropWhile (· = '0')).reverse⟩

/-- Compares rows of characters. -/
def compareChars : List Char → List Char → Ordering
  | [], [] => .eq
  | [], _ => .lt
  | _, [] => .gt
  | a :: as, b :: bs => if a = b then compareChars as bs else if a < b then .lt else .gt

/-- Compares the sizes of two numbers without their signs. -/
def DecimalText.compareSize (a b : DecimalText) : Ordering :=
  if a.whole.length ≠ b.whole.length then compare a.whole.length b.whole.length
  else (compareChars a.whole b.whole).then (compareChars a.part b.part)

/-- Compares two numbers. -/
def DecimalText.compare (a b : DecimalText) : Ordering :=
  let isZero (d : DecimalText) : Bool := d.whole.isEmpty && d.part.isEmpty
  match a.negative && !isZero a, b.negative && !isZero b with
  | true, false => .lt
  | false, true => .gt
  | false, false => a.compareSize b
  | true, true => b.compareSize a

/-- The rank of the unit behind a number. -/
def unitRank (cs : List Char) : Nat :=
  let cs := cs.dropWhile fun c => c = ' ' || c = '\t' || c = '-'
  let rest := (cs.dropWhile fun c => c.isDigit || c = '.')
  match rest with
  | c :: _ =>
    if c = 'k' then 1
    else ((['K', 'M', 'G', 'T', 'P', 'E', 'Z', 'Y'].findIdx? (· = c)).map (· + 1)).getD 0
  | [] => 0

/-- Compares two numbers with units. -/
def compareHuman (a b : List Char) : Ordering :=
  let x := DecimalText.ofFront a
  let y := DecimalText.ofFront b
  let rank (d : DecimalText) (cs : List Char) : Int :=
    if d.whole.isEmpty ∧ d.part.isEmpty then 0
    else if d.negative then -(unitRank cs : Int) - 1 else (unitRank cs : Int) + 1
  (compare (rank x a) (rank y b)).then (x.compare y)

/-- The quotient that a number with an exponent stands for, none if there is no number. -/
def generalValue (cs : List Char) : Option (Bool × Nat × Nat) :=
  match Quantity.ofFront? cs with
  | some (.quotient negative n d, _) => some (negative, n, d)
  | _ => none

/-- Compares two numbers with exponents; what is no number comes first. -/
def compareGeneral (a b : List Char) : Ordering :=
  match generalValue a, generalValue b with
  | none, none => .eq
  | none, _ => .lt
  | _, none => .gt
  | some (s, n, d), some (t, m, e) =>
    let value (negative : Bool) (n : Nat) : Int := if negative then -(n : Int) else n
    compare (value s n * e) (value t m * d)

/-- The number of the month that a text begins with. -/
def monthNumber (cs : List Char) : Nat :=
  let cs := cs.dropWhile fun c => c = ' ' || c = '\t'
  let name := String.ofList ((cs.take 3).map Char.toUpper)
  ((["JAN", "FEB", "MAR", "APR", "MAY", "JUN", "JUL", "AUG", "SEP", "OCT", "NOV", "DEC"].findIdx?
    (· = name)).map (· + 1)).getD 0

/-- The rank of a character in names of versions. -/
def versionRank (c : Char) : Int :=
  if c.isDigit then 0
  else if c.isAlpha then c.toNat
  else if c = '~' then -1
  else c.toNat + 256

/-- Compares names of versions: rows of digits count as numbers. -/
def compareVersions : (fuel : Nat) → List Char → List Char → Ordering
  | 0, _, _ => .eq
  | fuel + 1, a, b =>
    let front (cs : List Char) : List Char := cs.takeWhile fun c => !c.isDigit
    let x := front a
    let y := front b
    let rank (cs : List Char) (i : Nat) : Int := ((cs[i]?).map versionRank).getD 0
    let words := (List.range (max x.length y.length)).foldl
      (fun o i => o.then (compare (rank x i) (rank y i))) Ordering.eq
    let number (cs : List Char) : List Char := cs.takeWhile Char.isDigit
    let a := a.drop x.length
    let b := b.drop y.length
    let numbers := compare (digits 10 (number a)).1 (digits 10 (number b)).1
    let rest := if a.isEmpty ∧ b.isEmpty then .eq
      else compareVersions fuel (a.drop (number a).length) (b.drop (number b).length)
    words.then (numbers.then rest)

/-! ## 2. Keys -/

/-- A part of a line by which lines are compared, given by the first character and the end. -/
structure SortKey where
  field : Nat
  char : Nat
  /-- The last field and the last character in it, zero for all of it. -/
  last : Option (Nat × Nat)
  letters : List Char
  skipFirst : Bool
  skipLast : Bool

/-- Whether the character separates fields. -/
def isBlankChar (c : Char) : Bool := c = ' ' || c = '\t' || c = '\n'

/-- Goes on behind some fields; `stay` says not to go behind the last separator. -/
def behindFields (separator : Option Char) (stay : Bool) : (count : Nat) → List Char → List Char
  | 0, cs => cs
  | count + 1, cs =>
    match separator with
    | some t =>
      let rest := cs.dropWhile (· ≠ t)
      if count = 0 ∧ stay then rest else behindFields separator stay count (rest.drop 1)
    | none =>
      behindFields separator stay count
        ((cs.dropWhile isBlankChar).dropWhile fun c => !isBlankChar c)

/-- The part of a line that a key stands for. -/
def SortKey.part (k : SortKey) (separator : Option Char) (line : List Char) : List Char :=
  let start := behindFields separator false (k.field - 1) line
  let start := if k.skipFirst then start.dropWhile isBlankChar else start
  let start := start.drop (k.char - 1)
  match k.last with
  | none => start
  | some (field, char) =>
    let back :=
      if char = 0 then behindFields separator true field line
      else
        let f := behindFields separator false (field - 1) line
        let f := if k.skipLast then f.dropWhile isBlankChar else f
        f.drop char
    start.take (start.length - back.length)

/-- The characters of a key that count. -/
def keyText (letters : List Char) (cs : List Char) : List Char :=
  let cs := if letters.contains 'b' then cs.dropWhile isBlankChar else cs
  let cs := if letters.contains 'd' then cs.filter fun c => c.isAlphanum || isBlankChar c else cs
  let cs := if letters.contains 'i' then cs.filter isPrintable else cs
  if letters.contains 'f' then cs.map Char.toUpper else cs

/-- Compares two keys. -/
def compareKeys (letters : List Char) (a b : List Char) : Ordering :=
  let plain :=
    if letters.contains 'n' then
      (DecimalText.ofFront a).compare (DecimalText.ofFront b)
    else if letters.contains 'h' then compareHuman a b
    else if letters.contains 'g' then compareGeneral a b
    else if letters.contains 'M' then compare (monthNumber a) (monthNumber b)
    else if letters.contains 'V' then compareVersions (a.length + b.length + 1) a b
    else compareChars (keyText letters a) (keyText letters b)
  if letters.contains 'r' then plain.swap else plain

/-- A position in a key: a field, perhaps a character, and letters. -/
def keyPosition? (cs : List Char) : Option (Nat × Option Nat × List Char × List Char) :=
  let ds := cs.takeWhile Char.isDigit
  let rest := cs.drop ds.length
  if ds.isEmpty then none
  else
    let (char, rest) : Option Nat × List Char := match rest with
      | '.' :: more =>
        let es := more.takeWhile Char.isDigit
        (some (digits 10 es).1, more.drop es.length)
      | _ => (none, rest)
    let letters := rest.takeWhile fun c => "bdfghiMnRrV".toList.contains c
    some ((digits 10 ds).1, char, letters, rest.drop letters.length)

/-- Reads a key; without letters of its own it takes those that hold for all. -/
def sortKey? (common : List Char) (s : String) : Option SortKey :=
  match keyPosition? s.toList with
  | none => none
  | some (field, char, letters, rest) =>
    let finish (last : Option (Nat × Nat)) (more : List Char) : SortKey :=
      let own := letters ++ more
      let all := if own.isEmpty then common else own
      { field, char := char.getD 1, last, letters := all.filter (· ≠ 'b')
        skipFirst := (if own.isEmpty then common else letters).contains 'b'
        skipLast := (if own.isEmpty then common else more).contains 'b' }
    if field = 0 ∨ char = some 0 then none
    else
      match rest with
      | [] => some (finish none [])
      | ',' :: more =>
        match keyPosition? more with
        | some (f, c, ls, []) => if f = 0 then none else some (finish (some (f, c.getD 0)) ls)
        | _ => none
      | _ => none

/-- A position as it was written in old times, counted from zero: the field, the character and the
letters. -/
def oldPosition? (cs : List Char) : Option (Nat × Nat × List Char) :=
  match leadingNumber cs with
  | (some field, '.' :: rest) =>
    match leadingNumber rest with
    | (some char, letters) => if letters.all Char.isAlpha then some (field, char, letters) else none
    | (none, _) => none
  | (some field, letters) => if letters.all Char.isAlpha then some (field, 0, letters) else none
  | (none, _) => none

/-- The arguments with old keys, which begin with a plus sign, written as options. -/
def modernKeys : (fuel : Nat) → List String → List String
  | 0, args => args
  | _ + 1, [] => []
  | fuel + 1, a :: rest =>
    match a.toList with
    | '-' :: '-' :: [] => a :: rest
    | '+' :: cs =>
      match oldPosition? cs with
      | none => a :: modernKeys fuel rest
      | some (field, char, letters) =>
        let front := toString (field + 1) ++ "." ++ toString (char + 1) ++ String.ofList letters
        let last? : Option String :=
          match rest.head?.map String.toList with
          | some ('-' :: ds) =>
            (oldPosition? ds).map fun (f, c, ls) =>
              "," ++ toString (if c = 0 then f else f + 1) ++ "." ++ toString c ++ String.ofList ls
          | _ => none
        match last? with
        | some last => "-k" :: (front ++ last) :: modernKeys fuel rest.tail
        | none => "-k" :: front :: modernKeys fuel rest
    | _ => a :: modernKeys fuel rest

/-! ## 3. Sorting -/

/-- The first result that is not equal. -/
def firstOf (os : List Ordering) : Ordering := os.foldl Ordering.then .eq

/-- Keeps the first of lines in a row that are equal. -/
def withoutRepeats (same : String → String → Bool) : List String → List String
  | a :: b :: rest =>
    if same a b then
      match withoutRepeats same (b :: rest) with
      | _ :: more => a :: more
      | [] => [a]
    else a :: withoutRepeats same (b :: rest)
  | ls => ls

/-- The first line that is smaller than the one before, with its number. -/
def disorder? (bad : String → String → Bool) : (number : Nat) → List String → Option (Nat × String)
  | n, a :: b :: rest => if bad a b then some (n + 1, b) else disorder? bad (n + 1) (b :: rest)
  | _, _ => none

/-- Sorts lines. -/
def sort (args : List String) : Act Nat := do
  let table := ((OptionTable.letters "bcCdfghimMnRrsuVz" "kotST").withFlags
    [("ignore-leading-blanks", "b"), ("dictionary-order", "d"), ("ignore-case", "f"),
      ("general-numeric-sort", "g"), ("ignore-nonprinting", "i"), ("month-sort", "M"),
      ("human-numeric-sort", "h"), ("numeric-sort", "n"), ("reverse", "r"), ("version-sort", "V"),
      ("merge", "m"), ("stable", "s"), ("unique", "u"), ("zero-terminated", "z")]).withValues
    [("key", "k"), ("output", "o"), ("field-separator", "t"), ("buffer-size", "S"),
      ("parallel", "parallel"), ("temporary-directory", "T")]
  let g ← given ({ table with loose := "y" }.withLoose [("sort", "sort"), ("check", "check")]) 2
    (modernKeys (args.length + 1) args)
  let sorts := [("general-numeric", "g"), ("human-numeric", "h"), ("month", "M"), ("numeric", "n"),
    ("random", "R"), ("version", "V")]
  let spelled (o : String × String) : Act (String × String) := do
    match o with
    | ("sort", word) =>
      match sorts.find? fun w => word.toList.isPrefixOf w.1.toList with
      | some w => return (w.2, "")
      | none => refuseUse 1 ("invalid argument " ++ quoted word ++ " for '--sort'")
    | ("check", word) =>
      if word = "" ∨ "diagnose-first".toList.take word.length = word.toList then return ("c", "")
      else if word = "quiet" ∨ word = "silent" then return ("C", "")
      else refuseUse 1 ("invalid argument " ++ quoted word ++ " for '--check'")
    | _ => return o
  let g := { g with options := ← g.options.mapM spelled }
  let ending := if g.has "z" then '\x00' else '\n'
  match g.value? "S" with
  | some v =>
    let isShare : Bool :=
      v.toList.getLast? = some '%' && v.toList.dropLast.all Char.isDigit && 1 < v.length
    if ¬ isShare ∧ (amount? v).isNone then refuse 2 ("invalid -S argument " ++ quoted v)
  | none => pure ()
  match g.value? "parallel" with
  | some v => if v.toNat?.isNone then refuse 2 ("invalid --parallel argument " ++ quoted v)
  | none => pure ()
  let common := ("bdfghiMnRrV".toList).filter fun c => g.has c.toString
  let separator ← match g.value? "t" with
    | none => pure none
    | some "\\0" => pure (some '\x00')
    | some t =>
      match t.toList with
      | [c] => pure (some c)
      | [] => refuse 2 "empty tab"
      | _ => refuse 2 ("multi-character tab " ++ quoted t)
  let keys ← (g.values "k").mapM fun k => do
    match sortKey? common k with
    | some key => return key
    | none =>
      if (k.toList.head?.map Char.isDigit).getD false then
        refuse 2 ("field number is zero: invalid field specification " ++ quoted k)
      else refuse 2 ("invalid number at field start: invalid count at start of " ++ quoted k)
  let byKeys (a b : String) : Ordering :=
    if keys.isEmpty then compareKeys common a.toList b.toList
    else firstOf (keys.map fun k =>
      compareKeys k.letters (k.part separator a.toList) (k.part separator b.toList))
  let unique := g.has "u"
  let order (a b : String) : Ordering :=
    let o := byKeys a b
    if unique ∨ g.has "s" then o
    else
      let whole := compareChars a.toList b.toList
      o.then (if common.contains 'r' then whole.swap else whole)
  let texts ← (sources g.operands).mapM fun path => do
    match ← inputText path with
    | .ok text => return records ending text
    | .error e =>
      if e = .isDirectory then refuse 2 ("read failed: " ++ shown path ++ ": " ++ e.text)
      else refuse 2 ("cannot read: " ++ shown path ++ ": " ++ e.text)
  let all := texts.flatten
  if g.has "c" ∨ g.has "C" then
    let bad (a b : String) : Bool := order a b = .gt || (unique && order a b = .eq)
    match disorder? bad 1 all with
    | none => return 0
    | some (n, line) =>
      if ¬ g.has "C" then
        complain ((sources g.operands).headD "-" ++ ":" ++ toString n ++ ": disorder: " ++ line)
      return 1
  let sorted := all.mergeSort fun a b => order a b != .gt
  let result := if unique then withoutRepeats (fun a b => byKeys a b = .eq) sorted else sorted
  let text := String.join (result.map (·.push ending))
  match g.value? "o" with
  | none => printAll text
  | some path =>
    match ← openFile path .write with
    | .error e => refuse 2 ("open failed: " ++ shown path ++ ": " ++ e.text)
    | .ok n =>
      modify fun m => match m.world.write n text with
        | .ok world => { m with world }
        | .error _ => m
      return 0

/-! ## 4. Lines in a row -/

/-- Groups of lines in a row that are equal, each with its lines. -/
def lineGroups (same : String → String → Bool) : List String → List (List String)
  | [] => []
  | l :: ls =>
    match lineGroups same ls with
    | (m :: ms) :: rest => if same l m then (l :: m :: ms) :: rest else [l] :: (m :: ms) :: rest
    | rest => [l] :: rest

/-- Drops lines that equal the one before, or counts them. -/
def uniq (args : List String) : Act Nat := do
  let table := ((OptionTable.letters "cdDiuz0123456789" "fsw").withFlags [("count", "c"),
    ("repeated", "d"), ("ignore-case", "i"), ("unique", "u"),
    ("zero-terminated", "z")]).withValues
    [("skip-fields", "f"), ("skip-chars", "s"), ("check-chars", "w")]
    |>.withLoose [("all-repeated", "D"), ("group", "group")]
  let g ← given table 1 args
  let number (key : String) (what : String) : Act (Option Nat) := do
    match g.value? key with
    | none => return none
    | some v =>
      match v.toNat? with
      | some n => return some n
      | none => refuse 1 (v ++ ": invalid number of " ++ what)
  let old := String.join ((g.options.map (·.1)).filter fun k => k.toList.all Char.isDigit)
  let fields := (← number "f" "fields to skip").getD (old.toNat?.getD 0)
  let isSkip (a : String) : Bool := match a.toList with
    | '+' :: c :: cs => (c :: cs).all Char.isDigit
    | _ => false
  let skips := (g.operands.filter isSkip).map fun a => (leadingNumber (a.toList.drop 1)).1.getD 0
  let g := { g with operands := g.operands.filter fun a => !isSkip a }
  let chars := (skips.getLast? <|> (← number "s" "bytes to skip")).getD 0
  let width ← number "w" "bytes to compare"
  let key (l : String) : List Char :=
    let cs := (behindFields none false fields l.toList).drop chars
    let cs := match width with
      | some w => cs.take w
      | none => cs
    if g.has "i" then cs.map Char.toLower else cs
  let (input, output) ← match g.operands with
    | [] => pure ("-", none)
    | [a] => pure (a, none)
    | [a, b] => pure (a, if b = "-" then none else some b)
    | _ :: _ :: extra :: _ => refuseUse 1 ("extra operand " ++ quoted extra)
  match ← inputText input with
  | .error e =>
    if e = .isDirectory then refuse 1 ("error reading " ++ quoted input)
    else refuse 1 (shown input ++ ": " ++ e.text)
  | .ok text =>
    let ending := if g.has "z" then '\x00' else '\n'
    let groups := lineGroups (fun a b => key a = key b) (records ending text)
    let wanted := groups.filter fun ls =>
      if ls.length > 1 then !g.has "u" else !(g.has "d" || g.has "D")
    let each (ls : List String) : String :=
      if g.has "D" ∨ g.has "group" then String.join (ls.map (·.push ending))
      else
        let count := if g.has "c" then padLeft 7 (toString ls.length) ++ " " else ""
        (count ++ ls.headD "").push ending
    let between := match g.value? "group", g.value? "D" with
      | some method, _ => if method = "" then "separate" else method
      | none, some method => if method = "" then "none" else method
      | none, none => "none"
    let apart := ending.toString
    let body := (if between = "none" then "" else apart).intercalate (wanted.map each)
    let result := if wanted.isEmpty then ""
      else (if between = "prepend" ∨ between = "both" then apart else "") ++ body ++
        (if between = "append" ∨ between = "both" then apart else "")
    match output with
    | none => printAll result
    | some path =>
      match ← openFile path .write with
      | .error e => refuse 1 (shown path ++ ": " ++ e.text)
      | .ok n =>
        modify fun m => match m.world.write n result with
          | .ok world => { m with world }
          | .error _ => m
        return 0

/-! ## 5. Two texts -/

/-- Lines of two texts in order, each with the column it belongs to. -/
def mergeColumns : (fuel : Nat) → List String → List String → List (Nat × String)
  | 0, _, _ => []
  | _ + 1, as, [] => as.map fun a => (1, a)
  | _ + 1, [], bs => bs.map fun b => (2, b)
  | fuel + 1, a :: as, b :: bs =>
    match compareChars a.toList b.toList with
    | .lt => (1, a) :: mergeColumns fuel as (b :: bs)
    | .gt => (2, b) :: mergeColumns fuel (a :: as) bs
    | .eq => (3, a) :: mergeColumns fuel as bs

/-- Shows which lines two texts have in common. -/
def comm (args : List String) : Act Nat := do
  let table := ((OptionTable.letters "123z" "").withFlags [("check-order", "check-order"),
    ("nocheck-order", "nocheck-order"), ("total", "total"), ("zero-terminated", "z")]).withValues
    [("output-delimiter", "output-delimiter")]
  let g ← given table 1 args
  match g.operands with
  | [] => refuseUse 1 "missing operand"
  | [a] => refuseUse 1 ("missing operand after " ++ quoted a)
  | _ :: _ :: extra :: _ => refuseUse 1 ("extra operand " ++ quoted extra)
  | [a, b] =>
    let ending := if g.has "z" then '\x00' else '\n'
    let read (path : String) : Act (List String) := do
      match ← inputText path with
      | .ok text => return records ending text
      | .error e => refuse 1 (shown path ++ ": " ++ e.text)
    let as ← read a
    let bs ← read b
    let between := (g.value? "output-delimiter").getD "\t"
    let front (column : Nat) : String :=
      String.join (((List.range column).drop 1).map fun c =>
        if g.has (toString c) then "" else between)
    let merged := mergeColumns (as.length + bs.length + 1) as bs
    merged.forM fun (column, line) =>
      if g.has (toString column) then pure () else print ((front column ++ line).push ending)
    if g.has "total" then
      let count (column : Nat) : String :=
        toString (merged.filter fun entry => entry.1 = column).length
      print ((between.intercalate [count 1, count 2, count 3, "total"]).push ending)
    let bad (ls : List String) : Bool :=
      (disorder? (fun a b => compareChars a.toList b.toList = .gt) 1 ls).isSome
    if g.has "nocheck-order" then return 0
    if bad as then complain "file 1 is not in sorted order"
    if bad bs then complain "file 2 is not in sorted order"
    if bad as ∨ bad bs then
      complain "input is not in sorted order"
      return 1
    return 0

end TidyTree.Tool
