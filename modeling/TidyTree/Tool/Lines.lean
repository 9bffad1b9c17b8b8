/-
TidyTree.Tool.Lines — tools that pass lines on.

They copy their input to the output: whole, in part, numbered, turned
around or folded.  Every tool is a function from its arguments to its
status.
-/
import TidyTree.Shell.Format
import TidyTree.Tool.Options

namespace TidyTree.Tool

open Shell

/-! ## 1. Inputs -/

/-- The operands, or the input if there are none. -/
def sources (operands : List String) : List String := if operands.isEmpty then ["-"] else operands

/-- Does something with the text of each operand; one that cannot be read is complained about and
makes the status one. -/
def forEachInput (operands : List String) (a : String → String → Act Unit) : Act Nat := do
  let bad ← (sources operands).filterM fun path => do
    match ← inputText path with
    | .ok text => a path text; return false
    | .error e => complain (shown path ++ ": " ++ e.text); return true
  return if bad.isEmpty then 0 else 1

/-- The texts of all operands that can be read, in a row. -/
def allInput (operands : List String) : Act (String × Nat) := do
  let texts ← (sources operands).mapM fun path => do
    match ← inputText path with
    | .ok text => return (text, 0)
    | .error e => complain (shown path ++ ": " ++ e.text); return ("", 1)
  return (String.join (texts.map (·.1)), (texts.map (·.2)).foldl max 0)

/-- A number with blanks in front up to a width. -/
def padLeft (width : Nat) (s : String) : String :=
  String.ofList (List.replicate (width - s.length) ' ') ++ s

/-- A number that an argument writes, with a unit behind it. -/
def amount? (s : String) : Option Nat :=
  let cs := s.toList
  let ds := cs.takeWhile Char.isDigit
  let n := (digits 10 ds).1
  let unit := String.ofList (cs.drop ds.length)
  let powers := ["K", "M", "G", "T", "P", "E"]
  let scale (base : Nat) (i : Nat) : Nat := (List.replicate (i + 1) base).foldl (· * ·) 1
  let find (names : List String) (base : Nat) : Option Nat :=
    (names.findIdx? (· = unit)).map fun i => n * scale base i
  if ds.isEmpty then none
  else if unit = "" then some n
  else if unit = "b" then some (n * 512)
  else if unit = "k" then some (n * 1024)
  else
    find powers 1024 <|> find (powers.map (· ++ "iB")) 1024 <|>
      find ("kB" :: powers.map (· ++ "B")) 1000

/-! ## 2. Copying -/

/-- How lines are shown. -/
structure CatStyle where
  numbers : Bool
  /-- Empty lines get no number. -/
  filledOnly : Bool
  squeeze : Bool
  ends : Bool
  tabs : Bool
  controls : Bool

/-- A byte in printable form. -/
def CatStyle.byte (s : CatStyle) (c : Char) : String :=
  let n := c.toNat
  let low (n : Nat) : String :=
    if n < 32 then "^" ++ (Char.ofNat (n + 64)).toString
    else if n = 127 then "^?"
    else (Char.ofNat n).toString
  if c = '\t' then if s.tabs then "^I" else "\t"
  else if c = '\n' then "\n"
  else if ¬ s.controls then c.toString
  else if n < 128 then low n
  else "M-" ++ low (n - 128)

/-- Where the copying of texts stands. -/
structure CatState where
  number : Nat
  /-- How many empty lines came just before. -/
  blanks : Nat
  /-- Whether the last line goes on. -/
  inside : Bool

/-- A line with its end in the form in which it is shown. -/
def CatStyle.line (s : CatStyle) (st : CatState) (line : String) : String × CatState :=
  let isEmpty := !st.inside && line = "\n"
  let blanks := if isEmpty then st.blanks + 1 else 0
  if s.squeeze ∧ blanks > 1 then ("", { st with blanks })
  else
    let counted := !st.inside && (if s.filledOnly then !isEmpty else s.numbers)
    let number := if counted then st.number + 1 else st.number
    let front := if counted then padLeft 6 (toString number) ++ "\t" else ""
    let ended := line.toList.getLast? = some '\n'
    let body := if ended then line.toList.dropLast else line.toList
    let (body, carriage) :=
      if s.ends ∧ ended ∧ body.getLast? = some '\r' then (body.dropLast, "^M") else (body, "")
    let text := front ++ String.join (body.map s.byte) ++ carriage ++
      (if ended then (if s.ends then "$\n" else "\n") else "")
    (text, ⟨number, blanks, !ended⟩)

/-- All lines in the form in which they are shown. -/
def CatStyle.text (s : CatStyle) (st : CatState) (t : String) : String × CatState :=
  (fullLines t).foldl (fun (done, st) line =>
    let (shown, st) := s.line st line
    (done ++ shown, st)) ("", st)

/-- Whether a path leads to the file that the output goes to, with something left to read. -/
def isOutput (path : String) : Act Bool := do
  let m ← get
  let out : Option Nat := (m.opening? 1).bind fun n => (m.world.openings[n]?).bind fun o =>
    match o.channel with
    | .file id => some id
    | _ => none
  match out, ← resolve path with
  | some id, .ok (.file i) => return i = id && (m.world.files.data id).bytes.size ≠ 0
  | _, _ => return false

/-- Copies texts. -/
def cat (args : List String) : Act Nat := do
  let table := ((OptionTable.letters "AbeEnstTuv" "").withFlags
    [("show-all", "A"), ("number-nonblank", "b"), ("show-ends", "E"), ("number", "n"),
      ("squeeze-blank", "s"), ("show-tabs", "T"), ("show-nonprinting", "v")])
  let g ← given table 1 args
  let any (keys : List String) : Bool := keys.any g.has
  let style : CatStyle := ⟨any ["n"], any ["b"], any ["s"], any ["A", "e", "E"],
    any ["A", "t", "T"], any ["A", "e", "t", "v"]⟩
  let step (state : CatState × Nat) (path : String) : Act (CatState × Nat) := do
    let (st, status) := state
    if path ≠ "-" ∧ (← isOutput path) then
      complain (shown path ++ ": input file is output file")
      return (st, 1)
    else
      match ← inputText path with
      | .error e => complain (shown path ++ ": " ++ e.text); return (st, 1)
      | .ok text =>
        let (text, st) := style.text st text
        return (st, max status (← printAll text))
  let (_, status) ← (sources g.operands).foldlM step (⟨0, 0, false⟩, 0)
  return status

/-- Prints the lines of each text in the opposite order. -/
def tac (args : List String) : Act Nat := do
  let g ← given ((OptionTable.letters "br" "s").withFlags [("before", "b"), ("regex", "r")]
    |>.withValues [("separator", "s")]) 1 args
  let separator := match g.value? "s" with
    | some "" => "\x00"
    | some s => s
    | none => "\n"
  forEachInput g.operands fun _ text => do
    let parts := text.splitOn separator
    let pieces :=
      if g.has "b" then parts.take 1 ++ (parts.drop 1).map (separator ++ ·)
      else parts.dropLast.map (· ++ separator) ++ [parts.getLastD ""]
    print (String.join pieces.reverse)

/-- Prints every line from its end to its beginning. -/
def rev (args : List String) : Act Nat := do
  let g ← given (.letters "hV" "") 1 args
  if g.has "h" ∨ g.has "V" then return 0
  forEachInput g.operands fun _ text =>
    let turn (l : String) : String :=
      if l.toList.getLast? = some '\n' then String.ofList l.toList.dropLast.reverse ++ "\n"
      else String.ofList l.toList.reverse
    print (String.join ((fullLines text).map turn))

/-- Copies the input to the output and to files. -/
def tee (args : List String) : Act Nat := do
  let g ← given ((OptionTable.letters "aip" "").withFlags [("append", "a"),
    ("ignore-interrupts", "i")]) 1 args
  let text ← standardInput
  let how : Opens := if g.has "a" then .append else .write
  let opened ← g.operands.mapM fun path => do
    match ← openFile path how with
    | .ok n => return some n
    | .error e => complain (shown path ++ ": " ++ e.text); return none
  print text
  opened.forM fun
    | some n => modify fun m =>
      match m.world.write n text with
      | .ok world => { m with world }
      | .error _ => m
    | none => pure ()
  return if opened.all Option.isSome then 0 else 1

/-! ## 3. Beginnings and ends -/

/-- Which part of a text is taken. -/
structure Portion where
  bytes : Bool
  count : Nat
  /-- Whether the count is from the other side: all but so many, or from that one on. -/
  opposite : Bool

/-- The beginning of a text. -/
def Portion.front (p : Portion) (text : String) : String :=
  let cut {α : Type} (xs : List α) : List α :=
    xs.take (if p.opposite then xs.length - p.count else p.count)
  if p.bytes then String.ofList (cut text.toList) else String.join (cut (fullLines text))

/-- The end of a text. -/
def Portion.back (p : Portion) (text : String) : String :=
  let cut {α : Type} (xs : List α) : List α :=
    xs.drop (if p.opposite then p.count - 1 else xs.length - p.count)
  if p.bytes then String.ofList (cut text.toList) else String.join (cut (fullLines text))

/-- Prints a part of each text, with headings if there are several; if it is `idle` nothing is
read. -/
def printPortions (g : Given) (idle : Bool) (part : String → String) : Act Nat := do
  let headed := (g.last? ["q", "v"] = some "v") ||
    (g.last? ["q", "v"] = none && g.operands.length > 1)
  let step (state : Bool × Nat) (path : String) : Act (Bool × Nat) := do
    let (first, status) := state
    let heading (name : String) : Act Unit :=
      if headed then print ((if first then "" else "\n") ++ "==> " ++ name ++ " <==\n") else pure ()
    let name := if path = "-" then "standard input" else path
    let opened : Except Errno (Option Nat) ←
      if path = "-" then pure (.ok none)
      else do
        match ← openFile path .read with
        | .ok n => pure (.ok (some n))
        | .error e => pure (.error e)
    match opened with
    | .error e =>
      complain ("cannot open " ++ quoted path ++ " for reading: " ++ e.text)
      return (first, 1)
    | .ok n? =>
      heading name
      match ← (if idle then pure (.ok "") else match n? with
        | some n => openedText n
        | none => readRest 0) with
      | .error e => complain ("error reading " ++ quoted name ++ ": " ++ e.text); return (false, 1)
      | .ok text => print (part text); return (false, status)
  let (_, status) ← (sources g.operands).foldlM step (true, 0)
  return status

/-- The options that a number for the beginning of a text stands for, which has letters behind
it. -/
def modernHead (args : List String) : Act (List String) := do
  match args with
  | a :: rest =>
    match a.toList with
    | '-' :: c :: cs =>
      let ds := (c :: cs).takeWhile Char.isDigit
      let letters := (c :: cs).drop ds.length
      if ds.isEmpty then return args
      match letters.find? fun l => !"bklmcqvz".toList.contains l with
      | some l => refuseUse 1 ("invalid trailing option -- " ++ l.toString)
      | none =>
        let scale := (letters.filter fun l => "bkm".toList.contains l).getLast?
        let isLines := (letters.filter fun l => "bkmcl".toList.contains l).getLast?.all (· = 'l')
        let unit := match scale with
          | some 'b' => "b"
          | some 'k' => "K"
          | some _ => "M"
          | none => ""
        let others := letters.filter fun l => "qvz".toList.contains l
        let count := String.ofList ds ++ (if isLines then "" else unit)
        return (if isLines then "-n" else "-c") :: count ::
          (others.map fun l => "-" ++ l.toString) ++ rest
    | _ => return args
  | [] => return []

/-- The options that a number for the end of a text stands for, with a letter behind it for the
unit; it has to be the only option, for at most one file. -/
def modernTail (args : List String) : List String :=
  let isAlone : Bool := match args with
    | [_] => true
    | [_, b] => b = "-" || b = "--" || b.toList.head? ≠ some '-'
    | [_, b, _] => b = "--"
    | _ => false
  match args.head?.map String.toList with
  | some (sign :: cs) =>
    let ds := cs.takeWhile Char.isDigit
    let (unit, rest) : Option Char × List Char := match cs.drop ds.length with
      | l :: more => if "bcl".toList.contains l then (some l, more) else (none, l :: more)
      | [] => (none, [])
    let goesOn := rest = ['f']
    if ¬ isAlone ∨ ¬ (sign = '-' ∨ sign = '+') ∨ ¬ (rest.isEmpty ∨ goesOn) then args
    else if sign = '-' ∧ (cs.isEmpty ∨ cs = ['c'] ∨ cs = ['f']) then args
    else
      let count := if ds.isEmpty then "10" else String.ofList ds
      let scale := if unit = some 'b' then "b" else ""
      (if unit = some 'b' ∨ unit = some 'c' then "-c" else "-n") ::
        ((if sign = '+' then "+" else "") ++ count ++ scale) ::
        (if goesOn then ["-f"] else []) ++ args.tail
  | _ => args

/-- The options of the tools that print a part of a text. -/
def portionTable (plain : String) : OptionTable :=
  ((OptionTable.letters plain "cn").withFlags [("quiet", "q"), ("silent", "q"), ("verbose", "v"),
    ("follow", "f"), ("zero-terminated", "z")]).withValues [("lines", "n"), ("bytes", "c")]

/-- The part that options ask for; `sign` marks a count from the other side. -/
def portion (g : Given) (sign : Char) : Act Portion := do
  match g.last? ["c", "n"] with
  | none => return ⟨false, 10, false⟩
  | some key =>
    let value := (g.value? key).getD ""
    let (opposite, cs) := match value.toList with
      | c :: cs =>
        if c = sign then (true, cs) else if c = '+' ∨ c = '-' then (false, cs) else (false, c :: cs)
      | [] => (false, [])
    match amount? (String.ofList cs) with
    | some count => return ⟨key = "c", count, opposite⟩
    | none =>
      refuse 1 ("invalid number of " ++ (if key = "c" then "bytes" else "lines") ++ ": " ++
        quoted (if sign = '-' then String.ofList cs else value))

/-- Prints the beginning of each text. -/
def head (args : List String) : Act Nat := do
  let g ← given (portionTable "qvz0123456789") 1 (← modernHead args)
  match g.options.find? fun o => o.1.toList.all Char.isDigit with
  | some o => refuseUse 1 ("invalid trailing option -- " ++ o.1)
  | none => pure ()
  let p ← portion g '-'
  printPortions g (p.count = 0 && !p.opposite) fun text => p.front text

/-- Prints the end of each text. -/
def tail (args : List String) : Act Nat := do
  let g ← given (portionTable "fFqvz0123456789") 1 (modernTail args)
  match g.options.find? fun o => o.1.toList.all Char.isDigit with
  | some o => refuse 1 ("option used in invalid context -- " ++ o.1)
  | none => pure ()
  let p ← portion g '+'
  if p.count = 0 ∧ ¬ p.opposite ∧ ¬ (g.has "f" ∨ g.has "F") then return 0
  printPortions g false fun text => p.back text

/-! ## 4. Counting -/

/-- What is counted in a text: lines, words, characters, bytes and the longest line. -/
structure Counts where
  lines : Nat
  words : Nat
  bytes : Nat
  longest : Nat

/-- How wide a line is on a terminal. -/
def lineWidth (cs : List Char) : Nat :=
  cs.foldl (fun n c => if c = '\t' then n + 8 - n % 8 else if isPrintable c then n + 1 else n) 0

/-- Counts in a text. -/
def Counts.ofText (s : String) : Counts :=
  let cs := s.toList
  let words := cs.foldl (fun (n, inside) c =>
    if CharClass.space.has c then (n, false)
    else if inside then (n, true) else (n + 1, true)) (0, false)
  { lines := (cs.filter (· = '\n')).length
    words := words.1
    bytes := cs.length
    longest := ((Tool.lines s).map fun l => lineWidth l.toList).foldl max 0 }

/-- How wide the columns are: so that the sizes of all files fit. -/
def countWidth (paths : List String) : Act Nat := do
  let sizes ← paths.mapM fun path => do
    let m ← get
    if path = "-" then
      match (m.opening? 0).bind fun n => (m.world.openings[n]?).map Opening.channel with
      | some (.file id) => return some (m.world.files.data id).bytes.size
      | _ => return none
    else
      match ← resolve path with
      | .ok (.file id) => return some (m.world.files.data id).bytes.size
      | .ok _ => return none
      | .error _ => return some 0
  let total := (sizes.filterMap id).foldl (· + ·) 0
  let width := (toString total).length
  return if sizes.any Option.isNone then max width 7 else width

/-- Counts lines, words and bytes. -/
def wc (args : List String) : Act Nat := do
  let table := (OptionTable.letters "clLmw" "").withFlags [("bytes", "c"), ("chars", "m"),
    ("lines", "l"), ("words", "w"), ("max-line-length", "L")]
  let g ← given table 1 args
  let given := ["l", "w", "m", "c", "L"].filter g.has
  let keys := if given.isEmpty then ["l", "w", "c"] else given
  let paths := sources g.operands
  let width ← if keys.length = 1 ∧ paths.length = 1 then pure 1 else countWidth paths
  let row (c : Counts) (name : Option String) : String :=
    let shownName (n : String) : String := if n.toList.contains '\n' then shown n else n
    let value (key : String) : Nat := match key with
      | "l" => c.lines
      | "w" => c.words
      | "L" => c.longest
      | _ => c.bytes
    " ".intercalate (keys.map fun k => padLeft width (toString (value k))) ++
      ((name.map fun n => " " ++ shownName n).getD "") ++ "\n"
  let step (state : Counts × Nat) (path : String) : Act (Counts × Nat) := do
    let (sum, status) := state
    let name := if g.operands.isEmpty then none else some path
    let add (c : Counts) : Counts :=
      ⟨sum.lines + c.lines, sum.words + c.words, sum.bytes + c.bytes, max sum.longest c.longest⟩
    match ← inputText path with
    | .ok text =>
      let c := Counts.ofText text
      print (row c name)
      return (add c, status)
    | .error e =>
      complain (shown path ++ ": " ++ e.text)
      if e = .isDirectory then print (row ⟨0, 0, 0, 0⟩ name)
      return (sum, 1)
  let (sum, status) ← paths.foldlM step (⟨0, 0, 0, 0⟩, 0)
  if paths.length > 1 then print (row sum (some "total"))
  return status

/-! ## 5. Folding -/

/-- Cuts a line into pieces of at most `width` columns. -/
def foldLine (width : Nat) (atBlanks : Bool) : (fuel : Nat) → List Char → List String
  | 0, cs => [String.ofList cs]
  | fuel + 1, cs =>
    if cs.length ≤ width then [String.ofList cs]
    else
      let front := cs.take width
      let back := front.reverse.dropWhile fun c => c ≠ ' ' && c ≠ '\t'
      let piece := if atBlanks ∧ ¬ back.isEmpty then back.reverse else front
      String.ofList piece :: foldLine width atBlanks fuel (cs.drop (max 1 piece.length))

/-- Folds long lines. -/
def fold (args : List String) : Act Nat := do
  let args := match args with
    | a :: rest =>
      match a.toList with
      | '-' :: c :: cs => if c.isDigit then "-w" :: String.ofList (c :: cs) :: rest else args
      | _ => args
    | [] => []
  let g ← given ((OptionTable.letters "bs" "w").withValues [("width", "w")]) 1 args
  let width ← match g.value? "w" with
    | none => pure 80
    | some w =>
      match w.toNat? with
      | some (n + 1) => pure (n + 1)
      | some 0 =>
        refuse 1 ("invalid number of columns: " ++ quoted w ++ ": Numerical result out of range")
      | none => refuse 1 ("invalid number of columns: " ++ quoted w)
  forEachInput g.operands fun _ text => do
    let each (l : String) : String :=
      let ended := l.toList.getLast? = some '\n'
      let body := if ended then l.toList.dropLast else l.toList
      "\n".intercalate (foldLine width (g.has "s") (body.length + 1) body) ++
        if ended then "\n" else ""
    print (String.join ((fullLines text).map each))

end TidyTree.Tool
