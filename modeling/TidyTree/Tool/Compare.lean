/-
TidyTree.Tool.Compare — comparing files.

Files are compared byte by byte, or line by line, directories entry by
entry.  The status is zero for what is equal, one for what differs and
two if there was trouble.
-/
import TidyTree.Tool.Difference
import TidyTree.Tool.Files

namespace TidyTree.Tool

open Shell

/-! ## 1. Byte by byte -/

/-- Complains about how the tool is used and leaves it. -/
def refuseComparison {α : Type} (text : String) : Act α := do
  complain text
  let name := (← get).name
  complain ("Try '" ++ name ++ " --help' for more information.")
  stop 2

/-- The octal digits of a byte. -/
def octalByte (c : Char) : String := String.ofList (Nat.toDigits 8 c.toNat)

/-- A byte as it is shown. -/
def visibleByte (c : Char) : String :=
  let n := c.toNat
  let (front, n) := if 128 ≤ n then ("M-", n - 128) else ("", n)
  front ++
    (if n < 32 then "^" ++ (Char.ofNat (n + 64)).toString
    else if n = 127 then "^?" else (Char.ofNat n).toString)

/-- The places at which two texts differ, from a place on, with the bytes and the line. -/
def byteDifferences : (place line : Nat) → List Char → List Char → List (Nat × Nat × Char × Char)
  | place, line, a :: as, b :: bs =>
    let rest := byteDifferences (place + 1) (if a = '\n' then line + 1 else line) as bs
    if a = b then rest else (place, line, a, b) :: rest
  | _, _, _, _ => []

/-- How two files are compared. -/
structure ByteStyle where
  quiet : Bool
  all : Bool
  bytes : Bool

/-- Compares two texts that have names. -/
def compareBytes (s : ByteStyle) (nameA nameB : String) (a b : List Char) : Act Nat := do
  let found := byteDifferences 1 1 a b
  if s.quiet then return if a = b then 0 else 1
  let width := (toString (min a.length b.length)).length
  let row (d : Nat × Nat × Char × Char) : String :=
    let (place, _, x, y) := d
    let number := padLeft width (toString place) ++ " " ++ padLeft 3 (octalByte x)
    if s.bytes then
      let shownX := visibleByte x
      number ++ " " ++ shownX ++ String.ofList (List.replicate (4 - shownX.length) ' ') ++ " " ++
        padLeft 3 (octalByte y) ++ " " ++ visibleByte y ++ "\n"
    else number ++ " " ++ padLeft 3 (octalByte y) ++ "\n"
  let endOfFile : Act Unit := do
    let (short, name) := if a.length < b.length then (a, nameA) else (b, nameB)
    let lines := (short.filter (· = '\n')).length
    say ("cmp: EOF on " ++ name ++
      (if short.isEmpty then " which is empty"
      else " after byte " ++ toString short.length ++
        (if s.all then ""
        else if short.getLast? = some '\n' then ", line " ++ toString lines
        else ", in line " ++ toString (lines + 1))) ++ "\n")
  if s.all then
    print (String.join (found.map row))
    if a.length ≠ b.length then endOfFile
    return if found.isEmpty ∧ a.length = b.length then 0 else 1
  else
    match found with
    | (place, line, x, y) :: _ =>
      let kind := if s.bytes then "byte" else "char"
      let detail :=
        if s.bytes then
          " is " ++ padLeft 3 (octalByte x) ++ " " ++ visibleByte x ++ " " ++
            padLeft 3 (octalByte y) ++ " " ++ visibleByte y
        else ""
      print (nameA ++ " " ++ nameB ++ " differ: " ++ kind ++ " " ++ toString place ++ ", line " ++
        toString line ++ detail ++ "\n")
      return 1
    | [] =>
      if a.length = b.length then return 0
      endOfFile
      return 1

/-- Compares two files byte by byte. -/
def cmp (args : List String) : Act Nat := do
  let table := ((OptionTable.letters "bclsv" "in").withFlags [("print-bytes", "b"),
    ("print-chars", "b"), ("verbose", "l"), ("quiet", "s"), ("silent", "s")]).withValues
    [("ignore-initial", "i"), ("bytes", "n")]
  let g ← match table.read args with
    | .ok g =>
      pure { g with options := g.options.map fun (k, v) => (if k = "c" then "b" else k, v) }
    | .error e => refuseComparison e
  if g.has "help" ∨ g.has "version" ∨ g.has "v" then return 0
  if g.has "l" ∧ g.has "s" then refuseComparison "options -l and -s are incompatible"
  let skip (s : String) : Act Nat := do
    match amount? s with
    | some n => return n
    | none => refuseComparison ("invalid --ignore-initial value '" ++ s ++ "'")
  let (skipA, skipB) ← (do
    match g.value? "i" with
    | none => return (0, 0)
    | some v =>
      match v.splitOn ":" with
      | [x, y] => return (← skip x, ← skip y)
      | _ =>
        let n ← skip v
        return (n, n) : Act (Nat × Nat))
  match g.operands with
  | [] => refuseComparison "missing operand after 'cmp'"
  | nameA :: rest =>
    let nameB := rest.headD "-"
    let more := rest.drop 1
    let skips ← more.take 2 |>.mapM skip
    if more.length > 2 then refuseComparison ("extra operand '" ++ more.getD 2 "" ++ "'")
    let most ← match g.value? "n" with
      | none => pure none
      | some v =>
        match amount? v with
        | some n => pure (some n)
        | none => refuseComparison ("invalid --bytes value '" ++ v ++ "'")
    let fetch (name : String) (skipped : Nat) : Act (Except Errno (List Char)) := do
      let text ← inputText name
      return text.map fun t =>
        let cs := t.toList.drop skipped
        match most with
        | some n => cs.take n
        | none => cs
    if nameA = nameB then return 0
    match ← fetch nameA (skips.headD skipA) with
    | .error e =>
      if ¬ g.has "s" ∨ e = .isDirectory then complain (nameA ++ ": " ++ e.text)
      return 2
    | .ok a =>
      match ← fetch nameB (skips.getD 1 skipB) with
      | .error e =>
        if ¬ g.has "s" ∨ e = .isDirectory then complain (nameB ++ ": " ++ e.text)
        return 2
      | .ok b => compareBytes ⟨g.has "s", g.has "l", g.has "b"⟩ nameA nameB a b

/-! ## 2. Line by line -/

/-- How lines are compared and what is shown of their differences. -/
structure DiffStyle where
  /-- The arguments that are shown with the names of files in directories. -/
  options : List String
  brief : Bool
  tellsSame : Bool
  ignoreCase : Bool
  /-- Whether runs of blanks count as one, or not at all. -/
  ignoreAmount : Bool
  ignoreBlanks : Bool
  ignoreEnds : Bool
  ignoreEmpty : Bool
  recursive : Bool
  newFiles : Bool
  asText : Bool
  /-- How many lines are shown around a change, and whether in one column. -/
  context : Option (Nat × Bool)
  script : Bool
  /-- Whether a script says how many lines it removes and adds. -/
  counted : Bool
  labels : List String

/-- A line as it is compared; the end of a line without one is marked. -/
def DiffStyle.key (s : DiffStyle) (line : String) : String :=
  let cs := line.toList
  let cs := if s.ignoreCase then cs.map Char.toLower else cs
  let trimmed := (cs.reverse.dropWhile CharClass.space.has).reverse
  let rec squeezed : (blank : Bool) → List Char → List Char
    | _, [] => []
    | blank, c :: cs =>
      if CharClass.space.has c then if blank then squeezed true cs else ' ' :: squeezed true cs
      else c :: squeezed false cs
  String.ofList
    (if s.ignoreBlanks then cs.filter fun c => !CharClass.space.has c
    else if s.ignoreAmount then squeezed false trimmed
    else if s.ignoreEnds then trimmed
    else cs)

/-- A line behind a sign, with a mark if it has no end. -/
def markedLine (sign line : String) : String :=
  if line.toList.getLast? = some '\n' then sign ++ line
  else sign ++ line ++ "\n\\ No newline at end of file\n"

/-- A range of lines, written with a comma if there are several. -/
def rangeText (r : Nat × Nat) : String :=
  if r.2 ≤ r.1 then toString r.1
  else if r.2 = r.1 + 1 then toString r.2
  else toString (r.1 + 1) ++ "," ++ toString r.2

/-- The lines of a range. -/
def linesIn (ls : List String) (r : Nat × Nat) : List String := (ls.take r.2).drop r.1

/-- A hunk as commands that change the one text to the other. -/
def Hunk.plainText (h : Hunk) (a b : List String) : String :=
  let removed := h.left.1 < h.left.2
  let added := h.right.1 < h.right.2
  let letter := if removed then if added then "c" else "d" else "a"
  rangeText h.left ++ letter ++ rangeText h.right ++ "\n" ++
    String.join ((linesIn a h.left).map (markedLine "< ")) ++
    (if removed && added then "---\n" else "") ++
    String.join ((linesIn b h.right).map (markedLine "> "))

/-- A hunk as a command of a script that edits the one text; the script begins with the last one. -/
def Hunk.scriptText (h : Hunk) (b : List String) : String :=
  let removed := h.left.1 < h.left.2
  let added := h.right.1 < h.right.2
  rangeText h.left ++ (if removed then if added then "c" else "d" else "a") ++ "\n" ++
    (if added then String.join (linesIn b h.right) ++ ".\n" else "")

/-- A hunk as commands that say how many lines are removed and added. -/
def Hunk.countedText (h : Hunk) (b : List String) : String :=
  let removed := h.left.2 - h.left.1
  let added := h.right.2 - h.right.1
  (if removed = 0 then ""
    else "d" ++ toString (h.left.1 + 1) ++ " " ++ toString removed ++ "\n") ++
  (if added = 0 then ""
    else "a" ++ toString h.left.2 ++ " " ++ toString added ++ "\n" ++
      String.join (linesIn b h.right))

/-- Hunks with so few lines between them that they are shown together. -/
def groupHunks (context : Nat) : List Hunk → List (List Hunk)
  | [] => []
  | h :: hs =>
    match groupHunks context hs with
    | (next :: more) :: groups =>
      if next.left.1 - h.left.2 ≤ 2 * context then (h :: next :: more) :: groups
      else [h] :: (next :: more) :: groups
    | _ => [[h]]

/-- The part of a text that is shown for hunks in which it has the given ranges. -/
def shownRange (context size : Nat) (ranges : List (Nat × Nat)) : Nat × Nat :=
  ((ranges.headD (0, 0)).1 - context, min size ((ranges.getLastD (0, 0)).2 + context))

/-- A range with its length. -/
def lengthText (r : Nat × Nat) : String :=
  let n := r.2 - r.1
  if n = 1 then toString r.2
  else toString (if n = 0 then r.1 else r.1 + 1) ++ "," ++ toString n

/-- Hunks in one column. -/
def unifiedText (context : Nat) (a b : List String) (hs : List Hunk) : String :=
  let left := shownRange context a.length (hs.map Hunk.left)
  let right := shownRange context b.length (hs.map Hunk.right)
  let step (state : Nat × String) (h : Hunk) : Nat × String :=
    (h.left.2, state.2 ++ String.join ((linesIn a (state.1, h.left.1)).map (markedLine " ")) ++
      String.join ((linesIn a h.left).map (markedLine "-")) ++
      String.join ((linesIn b h.right).map (markedLine "+")))
  let (place, text) := hs.foldl step (left.1, "")
  "@@ -" ++ lengthText left ++ " +" ++ lengthText right ++ " @@\n" ++ text ++
    String.join ((linesIn a (place, left.2)).map (markedLine " "))

/-- One side of hunks in two parts. -/
def sideText (own : Hunk → Nat × Nat) (across : Hunk → Nat × Nat) (sign : String)
    (range : Nat × Nat) (ls : List String) (hs : List Hunk) : String :=
  let step (state : Nat × String) (h : Hunk) : Nat × String :=
    let mark := if (across h).1 < (across h).2 then "! " else sign
    ((own h).2, state.2 ++ String.join ((linesIn ls (state.1, (own h).1)).map (markedLine "  ")) ++
      String.join ((linesIn ls (own h)).map (markedLine mark)))
  if hs.all fun h => (own h).2 ≤ (own h).1 then ""
  else
    let (place, text) := hs.foldl step (range.1, "")
    text ++ String.join ((linesIn ls (place, range.2)).map (markedLine "  "))

/-- Hunks in two parts. -/
def contextText (context : Nat) (a b : List String) (hs : List Hunk) : String :=
  let left := shownRange context a.length (hs.map Hunk.left)
  let right := shownRange context b.length (hs.map Hunk.right)
  "***************\n*** " ++ rangeText left ++ " ****\n" ++
    sideText Hunk.left Hunk.right "- " left a hs ++
    "--- " ++ rangeText right ++ " ----\n" ++ sideText Hunk.right Hunk.left "+ " right b hs

/-- When files were changed, which is not known. -/
def changeTime : String := "1970-01-01 00:00:00.000000000 +0000"

/-- The differences of two texts as they are shown. -/
def DiffStyle.differences (s : DiffStyle) (nameA nameB : String) (a b : List String)
    (hs : List Hunk) : String :=
  let labelA := s.labels.headD (nameA ++ "\t" ++ changeTime)
  let labelB := s.labels.getD 1 (nameB ++ "\t" ++ changeTime)
  match s.context with
  | some (n, true) =>
    "--- " ++ labelA ++ "\n+++ " ++ labelB ++ "\n" ++
      String.join ((groupHunks n hs).map (unifiedText n a b))
  | some (n, false) =>
    "*** " ++ labelA ++ "\n--- " ++ labelB ++ "\n" ++
      String.join ((groupHunks n hs).map (contextText n a b))
  | none =>
    if s.script then String.join (hs.reverse.map (·.scriptText b))
    else if s.counted then String.join (hs.map (·.countedText b))
    else String.join (hs.map (·.plainText a b))

/-- Compares two texts that have names; what is found is printed behind `front`. -/
def DiffStyle.compare (s : DiffStyle) (front nameA nameB textA textB : String) : Act Nat := do
  let same : Act Nat := do
    if s.tellsSame then print ("Files " ++ nameA ++ " and " ++ nameB ++ " are identical\n")
    return 0
  if textA = textB then same
  else
    let isBinary (t : String) : Bool := !s.asText && t.toList.contains '\x00'
    if isBinary textA ∨ isBinary textB then
      print (if s.brief then "Files " ++ nameA ++ " and " ++ nameB ++ " differ\n"
        else "Binary files " ++ nameA ++ " and " ++ nameB ++ " differ\n")
      return if s.brief then 1 else 2
    else
      let a := fullLines textA
      let b := fullLines textB
      let found := hunks (a.map s.key) (b.map s.key)
      let counts (h : Hunk) : Bool :=
        !s.ignoreEmpty || (linesIn a h.left ++ linesIn b h.right).any (· ≠ "\n")
      let found := found.filter counts
      if found.isEmpty then same
      else
        if s.brief then print ("Files " ++ nameA ++ " and " ++ nameB ++ " differ\n")
        else print (front ++ s.differences nameA nameB a b found)
        return 1

/-- Says that nothing is to be found at a path; gives the status. -/
def missing (path : String) : Act Nat := do
  match ← resolve path with
  | .error e => complain (path ++ ": " ++ e.text)
  | .ok _ => pure ()
  return 2

/-- Compares what stands at two paths, names first `inner`most deep. -/
def DiffStyle.comparePaths (s : DiffStyle) :
    (depth : Nat) → (inner : Bool) → (a b : String) → Act Nat
  | 0, _, _, _ => return 2
  | depth + 1, inner, a, b => do
    let isDirA ← if a = "-" then pure false else isDirectory a
    let isDirB ← if b = "-" then pure false else isDirectory b
    if isDirA ∧ isDirB then
      let names := ((← entryNames a) ++ (← entryNames b)).eraseDups.mergeSort (· ≤ ·)
      names.foldlM (fun status name => do
        let x := inside a name
        let y := inside b name
        let hasA ← stands x
        let hasB ← stands y
        let result ← (do
          if (hasA ∧ hasB) ∨ s.newFiles then
            let dirs := (← isDirectory x) && (← isDirectory y)
            if dirs ∧ ¬ s.recursive then
              print ("Common subdirectories: " ++ x ++ " and " ++ y ++ "\n")
              return 0
            else s.comparePaths depth true x y
          else
            print ("Only in " ++ (if hasA then a else b) ++ ": " ++ name ++ "\n")
            return 1 : Act Nat)
        return max status result) 0
    else if isDirA ∧ b ≠ "-" ∧ ¬ (← stands b) then missing b
    else if isDirB ∧ a ≠ "-" ∧ ¬ (← stands a) then missing a
    else
      let other (mine directory : String) : String := inside directory (lastComponent mine)
      let (a, b) := if isDirA then (other b a, b) else if isDirB then (a, other a b) else (a, b)
      let fetch (path : String) : Act (Except Errno String) := do
        match ← inputText path with
        | .ok t => return .ok t
        | .error e => return if s.newFiles ∧ e = .noEntry then .ok "" else .error e
      let textA ← fetch a
      let textB ← if a = b then pure textA else fetch b
      match textA, textB with
      | .ok textA, .ok textB =>
        let front := if inner then " ".intercalate (["diff"] ++ s.options ++ [a, b]) ++ "\n" else ""
        s.compare front a b textA textB
      | x, y =>
        match x with
        | .error e => complain (a ++ ": " ++ e.text)
        | .ok _ => pure ()
        match y with
        | .error e => if a ≠ b then complain (b ++ ": " ++ e.text)
        | .ok _ => pure ()
        return 2

/-- Compares two files line by line. -/
def diff (args : List String) : Act Nat := do
  let table := (((OptionTable.letters "0123456789abBcdefhHilnNpPqrsStTuvwyEZ" "CDFIUWxX").withFlags
    [("text", "a"), ("ignore-space-change", "b"), ("ignore-blank-lines", "B"), ("minimal", "d"),
      ("ed", "e"), ("ignore-case", "i"), ("new-file", "N"), ("brief", "q"), ("recursive", "r"),
      ("report-identical-files", "s"), ("expand-tabs", "t"), ("ignore-all-space", "w"),
      ("ignore-trailing-space", "Z"), ("normal", "normal"), ("rcs", "n"),
      ("side-by-side", "y")]).withValues
    [("label", "L"), ("exclude", "x")]).withLoose [("unified", "U"), ("context", "C"),
      ("color", "color")]
  let table := { table with valued := table.valued ++ "L" }
  let g ← match table.read args with
    | .ok g => pure g
    | .error e => refuseComparison e
  if g.has "help" ∨ g.has "version" ∨ g.has "v" then return 0
  let around (key : String) : Nat := ((g.value? key).bind amount?).getD 3
  let context := match g.last? ["u", "U", "c", "C"] with
    | some "u" => some (3, true)
    | some "U" => some (around "U", true)
    | some "c" => some (3, false)
    | some _ => some (around "C", false)
    | none => none
  let style : DiffStyle :=
    { options := args.filter fun a => a.toList.head? = some '-' && a ≠ "-"
      brief := g.has "q"
      tellsSame := g.has "s"
      ignoreCase := g.has "i"
      ignoreAmount := g.has "b"
      ignoreBlanks := g.has "w"
      ignoreEnds := g.has "Z"
      ignoreEmpty := g.has "B"
      recursive := g.has "r"
      newFiles := g.has "N"
      asText := g.has "a"
      context
      script := g.has "e"
      counted := g.has "n"
      labels := g.values "L" }
  match g.operands with
  | [] => refuseComparison "missing operand after 'diff'"
  | [a] => refuseComparison ("missing operand after '" ++ a ++ "'")
  | [a, b] => style.comparePaths treeDepth false a b
  | _ :: _ :: c :: _ => refuseComparison ("extra operand '" ++ c ++ "'")

end TidyTree.Tool
