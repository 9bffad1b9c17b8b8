/-
TidyTree.Tool.Columns — tools that work within lines.

`cut` takes columns out of lines and `paste` puts lines side by side.
`tr` replaces, removes and squeezes single characters: its arguments are
written forms of rows of characters.
-/
import TidyTree.Tool.Lines

namespace TidyTree.Tool

open Shell

/-! ## 1. Lists of columns -/

/-- A range of columns, counted from one; none at all means up to the end. -/
structure Columns where
  first : Nat
  last : Option Nat

/-- Whether a column is in one of the ranges. -/
def hasColumn (ranges : List Columns) (n : Nat) : Bool :=
  ranges.any fun r => r.first ≤ n && (r.last.map fun l => decide (n ≤ l)).getD true

/-- A range as it is written; `noun` names what is counted in complaints. -/
def columns? (fields : Bool) (s : String) : Except String Columns :=
  let cs := s.toList
  let front := cs.takeWhile Char.isDigit
  let rest := cs.drop front.length
  let number (ds : List Char) : Nat := (digits 10 ds).1
  let bad : String :=
    (if fields then "invalid field value " else "invalid byte/character position ") ++ quoted s
  let zero : String :=
    if fields then "fields are numbered from 1" else "byte/character positions are numbered from 1"
  match rest with
  | [] =>
    if front.isEmpty then .error zero
    else if number front = 0 then .error zero
    else .ok ⟨number front, some (number front)⟩
  | '-' :: more =>
    if ¬ more.all Char.isDigit then .error bad
    else if front.isEmpty ∧ more.isEmpty then .error "invalid range with no endpoint: -"
    else if ¬ front.isEmpty ∧ number front = 0 then .error zero
    else
      let first := if front.isEmpty then 1 else number front
      if more.isEmpty then .ok ⟨first, none⟩
      else if number more < first then .error "invalid decreasing range"
      else .ok ⟨first, some (number more)⟩
  | _ => .error bad

/-- The ranges of a list, separated by commas or blanks. -/
def columnList (fields : Bool) (s : String) : Except String (List Columns) :=
  let parts := ((s.replace " " ",").replace "\t" ",").splitOn ","
  parts.mapM (columns? fields)

/-! ## 2. Taking out and putting together -/

/-- The chosen ones of some things, in rows without gaps. -/
def chosenRuns {α : Type} (chosen : Nat → Bool) (xs : List α) : List (List α) :=
  let step (state : List (List α) × Bool × Nat) (x : α) : List (List α) × Bool × Nat :=
    let (runs, inside, n) := state
    if chosen n then
      match runs, inside with
      | r :: rest, true => ((x :: r) :: rest, true, n + 1)
      | _, _ => ([x] :: runs, true, n + 1)
    else (runs, false, n + 1)
  (((xs.foldl step ([], false, 1)).1).map List.reverse).reverse

/-- Takes columns out of lines. -/
def cut (args : List String) : Act Nat := do
  let table := ((OptionTable.letters "nsz" "bcdf").withValues [("bytes", "b"), ("characters", "c"),
    ("fields", "f"), ("delimiter", "d"), ("output-delimiter", "output-delimiter")]).withFlags
    [("only-delimited", "s"), ("complement", "complement")]
  let g ← given table 1 args
  let lists := g.options.filter fun o => ["b", "c", "f"].contains o.1
  match lists with
  | [] => refuseUse 1 "you must specify a list of bytes, characters, or fields"
  | (key, list) :: others =>
    if ¬ others.isEmpty then refuseUse 1 "only one type of list may be specified"
    let fields := key = "f"
    let delimiter := (g.value? "d").getD "\t"
    if (g.has "d") ∧ ¬ fields then
      refuseUse 1 "an input delimiter may be specified only when operating on fields"
    if g.has "s" ∧ ¬ fields then
      refuseUse 1 "suppressing non-delimited lines makes sense\n\tonly when operating on fields"
    if delimiter.length > 1 then refuseUse 1 "the delimiter must be a single character"
    match columnList fields list with
    | .error e => refuseUse 1 e
    | .ok ranges =>
      let chosen (n : Nat) : Bool := hasColumn ranges n != g.has "complement"
      let between := (g.value? "output-delimiter").getD (if fields then delimiter else "")
      let each (l : String) : String :=
        if fields then
          let parts := if delimiter = "" then [l] else l.splitOn delimiter
          if parts.length < 2 then (if g.has "s" then "" else l ++ "\n")
          else between.intercalate (chosenRuns chosen parts).flatten ++ "\n"
        else between.intercalate ((chosenRuns chosen l.toList).map String.ofList) ++ "\n"
      forEachInput g.operands fun _ text => print (String.join ((lines text).map each))

/-- The characters that separate lines put side by side. -/
def separatorList : (fuel : Nat) → List Char → List String
  | 0, _ => []
  | _ + 1, [] => []
  | fuel + 1, '\\' :: c :: cs =>
    let s := match c with
      | 'n' => "\n"
      | 't' => "\t"
      | '0' => ""
      | _ => c.toString
    s :: separatorList fuel cs
  | fuel + 1, c :: cs => c.toString :: separatorList fuel cs

/-- Puts texts together with separators that are used in turn. -/
def joinInTurn (separators : List String) : (n : Nat) → List String → String
  | _, [] => ""
  | _, [s] => s
  | n, s :: rest =>
    s ++ (separators[n % max 1 separators.length]?).getD "" ++ joinInTurn separators (n + 1) rest

/-- The lines that come next of each source; sources of one number share their lines. -/
def nextRow (sources : List Nat) (left : List (Nat × List String)) :
    List (Option String) × List (Nat × List String) :=
  sources.foldl (fun (row, left) s =>
    match left.lookup s with
    | some (l :: rest) =>
      (row ++ [some l], (s, rest) :: left.filter fun x => x.1 ≠ s)
    | _ => (row ++ [none], left)) ([], left)

/-- All rows of lines. -/
def allRows (sources : List Nat) : (fuel : Nat) → List (Nat × List String) → List (List String)
  | 0, _ => []
  | fuel + 1, left =>
    let (row, left) := nextRow sources left
    if row.all Option.isNone then []
    else row.map (fun (o : Option String) => o.getD "") :: allRows sources fuel left

/-- Puts lines side by side. -/
def paste (args : List String) : Act Nat := do
  let table := ((OptionTable.letters "sz" "d").withFlags [("serial", "s")]).withValues
    [("delimiters", "d")]
  let g ← given table 1 args
  let written := (g.value? "d").getD "\t"
  let separators := if written = "" then [""] else separatorList (written.length + 1) written.toList
  let paths := sources g.operands
  let texts ← paths.mapM fun path => do
    match ← inputText path with
    | .ok text => return some (lines text)
    | .error e => complain (shown path ++ ": " ++ e.text); return none
  if g.has "s" then
    (texts.filterMap id).forM fun ls => print (joinInTurn separators 0 ls ++ "\n")
    return if texts.all Option.isSome then 0 else 1
  else if texts.any Option.isNone then return 1
  else
    let firstInput := (paths.findIdx? (· = "-")).getD 0
    let numbers := (List.range paths.length).map fun i =>
      if paths[i]? = some "-" then firstInput else i
    let contents := (texts.filterMap id)
    let left := (List.range paths.length).map fun i => (i, (contents[i]?).getD [])
    let size := (contents.map List.length).foldl (· + ·) 1
    (allRows numbers size left).forM fun row => print (joinInTurn separators 0 row ++ "\n")
    return 0

/-! ## 3. Rows of characters -/

/-- A piece of the written form of a row of characters. -/
inductive CharPiece where
  | chars (cs : List Char)
  | kind (k : CharClass)
  /-- A character so many times, or as often as is needed. -/
  | filled (c : Char) (count : Option Nat)

/-- A character with a mark that says whether a backslash stood before it. -/
abbrev MarkedChar := Char × Bool

/-- Gives backslashes their meaning. -/
def unescapeSet : (fuel : Nat) → List Char → List MarkedChar
  | 0, _ => []
  | _ + 1, [] => []
  | _ + 1, ['\\'] => [('\\', false)]
  | fuel + 1, '\\' :: c :: cs =>
    if isDigit8 c then
      let ds := (c :: cs).take 3 |>.takeWhile isDigit8
      let n := (digits 8 ds).1
      let ds := if n > 255 then ds.take 2 else ds
      (Char.ofNat (digits 8 ds).1, true) :: unescapeSet fuel ((c :: cs).drop ds.length)
    else
      let plain := [('a', '\x07'), ('b', '\x08'), ('f', '\x0c'), ('n', '\n'), ('r', '\r'),
        ('t', '\t'), ('v', '\x0b')]
      ((plain.lookup c).getD c, true) :: unescapeSet fuel cs
  | fuel + 1, c :: cs => (c, false) :: unescapeSet fuel cs
where
  isDigit8 (c : Char) : Bool := '0' ≤ c && c ≤ '7'

/-- The characters from one to another. -/
def charRange (a b : Char) : List Char :=
  (List.range (b.toNat + 1 - a.toNat)).map fun i => Char.ofNat (a.toNat + i)

/-- Reads a bracket form, if one comes next. -/
def bracketPiece? (cs : List MarkedChar) : Except String (Option (CharPiece × List MarkedChar)) :=
  match cs with
  | ('[', false) :: (':', false) :: more =>
    let name := more.takeWhile fun c => c.1 ≠ ':'
    match more.drop name.length with
    | (':', false) :: (']', false) :: rest =>
      let text := String.ofList (name.map (·.1))
      match CharClass.all.lookup text with
      | some k => .ok (some (.kind k, rest))
      | none => .error ("invalid character class " ++ quoted text)
    | _ => .ok none
  | ('[', false) :: ('=', false) :: (c, _) :: ('=', false) :: (']', false) :: rest =>
    .ok (some (.chars [c], rest))
  | ('[', false) :: (c, _) :: ('*', false) :: more =>
    let ds := more.takeWhile fun d => d.1.isDigit
    match more.drop ds.length with
    | (']', false) :: rest =>
      let base := if ds.head?.map (·.1) = some '0' then 8 else 10
      let n := (digits base (ds.map (·.1))).1
      .ok (some (.filled c (if n = 0 then none else some n), rest))
    | _ => .ok none
  | _ => .ok none

/-- Reads the pieces of a row of characters. -/
def charPieces : (fuel : Nat) → List MarkedChar → Except String (List CharPiece)
  | 0, _ => .ok []
  | _ + 1, [] => .ok []
  | fuel + 1, (c, q) :: cs => do
    match ← bracketPiece? ((c, q) :: cs) with
    | some (p, rest) => return p :: (← charPieces fuel rest)
    | none =>
      match cs with
      | ('-', false) :: (d, _) :: rest =>
        if d < c then
          .error ("range-endpoints of '" ++ c.toString ++ "-" ++ d.toString ++
            "' are in reverse collating sequence order")
        else return .chars (charRange c d) :: (← charPieces fuel rest)
      | _ => return .chars [c] :: (← charPieces fuel cs)

/-- The characters of a class, in order. -/
def classChars (k : CharClass) : List Char := (charRange '\x00' '\xff').filter k.has

/-- The characters of pieces; what is filled up grows until there are `size` characters. -/
def expandPieces (size : Nat) (ps : List CharPiece) : List Char :=
  let length : CharPiece → Nat
    | .chars cs => cs.length
    | .kind k => (classChars k).length
    | .filled _ n => n.getD 0
  let missing := size - (ps.map length).foldl (· + ·) 0
  ps.flatMap fun
    | .chars cs => cs
    | .kind k => classChars k
    | .filled c n => List.replicate (n.getD missing) c

/-! ## 4. Replacing characters -/

/-- Drops characters of a row that equal the one before. -/
def squeeze (has : Char → Bool) : List Char → List Char
  | a :: b :: cs =>
    if a = b ∧ has a then squeeze has (b :: cs) else a :: squeeze has (b :: cs)
  | cs => cs

/-- The row of characters that a text writes. -/
def charRow (size : Nat) (s : String) : Act (List Char) := do
  match charPieces (s.length + 1) (unescapeSet (s.length + 1) s.toList) with
  | .ok ps => return expandPieces size ps
  | .error e => refuse 1 e

/-- Complains about the number of rows. -/
def refuseRows {α : Type} (text hint : String) : Act α := do
  complain text
  if hint ≠ "" then say (hint ++ "\n")
  say ("Try '" ++ (← get).name ++ " --help' for more information.\n")
  stop 1

/-- Replaces, removes and squeezes characters. -/
def tr (args : List String) : Act Nat := do
  let table := { (OptionTable.letters "cCdst" "").withFlags [("complement", "c"), ("delete", "d"),
    ("squeeze-repeats", "s"), ("truncate-set1", "t")] with stops := true }
  let g ← given table 1 args
  let complement := g.has "c" || g.has "C"
  let deleting := g.has "d"
  let squeezing := g.has "s"
  let needed := if deleting = squeezing then 2 else 1
  let most := if deleting ∧ ¬ squeezing then 1 else 2
  match g.operands with
  | [] => refuseRows "missing operand" ""
  | a :: rest =>
    if rest.length + 1 < needed then
      refuseRows ("missing operand after " ++ quoted a) (if deleting then
        "Two strings must be given when both deleting and squeezing repeats."
        else "Two strings must be given when translating.")
    match g.operands.drop most with
    | extra :: _ =>
      refuseRows ("extra operand " ++ quoted extra) (if most = 1 then
        "Only one string may be given when deleting without squeezing repeats." else "")
    | [] =>
      let given ← charRow 0 a
      let first :=
        if complement then (charRange '\x00' '\xff').filter fun c => !given.contains c else given
      let second ← match rest with
        | b :: _ => charRow (if deleting then 0 else first.length) b
        | [] => pure []
      let text ← standardInput
      let result : List Char ←
        if deleting then
          let kept := text.toList.filter fun c => !first.contains c
          pure (if squeezing then squeeze second.contains kept else kept)
        else if rest.isEmpty then pure (squeeze first.contains text.toList)
        else
          match second.getLast? with
          | none =>
            if g.has "t" ∨ first.isEmpty then pure text.toList
            else refuse 1 "when not truncating set1, string2 must be non-empty"
          | some last =>
            let first := if g.has "t" then first.take second.length else first
            let pairs := first.zip (second ++ List.replicate (first.length - second.length) last)
            let table : Array Char := pairs.foldl (fun t p => t.setIfInBounds p.1.toNat p.2)
              ((charRange '\x00' '\xff').toArray)
            let replaced := text.toList.map fun c => (table[c.toNat]?).getD c
            pure (if squeezing then squeeze second.contains replaced else replaced)
      printAll (String.ofList result)

end TidyTree.Tool
