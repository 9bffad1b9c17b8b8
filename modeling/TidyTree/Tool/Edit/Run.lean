/-
TidyTree.Tool.Edit.Run — carrying out editing scripts.

Each cycle takes a line of the input as the text that is edited, carries
out the commands and prints what has become of it.  A second text is
kept from cycle to cycle.  Files can be put in the place of those that
were read.
-/
import TidyTree.Tool.Edit.Reader
import TidyTree.Tool.Files

namespace TidyTree.Tool.Edit

open Shell

/-! ## 1. State -/

/-- Whether a line is in a range of lines. -/
inductive RangeState where
  | before
  | inside (last : Option Nat)

/-- A text that is edited, and whether its line had an end. -/
structure Edited where
  text : String
  ended : Bool

/-- What is printed at the end of a cycle. -/
inductive Later where
  | text (s : String)
  | file (path : String)

/-- How a script is carried out. -/
structure Style where
  steps : Array Step
  quiet : Bool
  /-- The end of lines. -/
  lineEnd : Char
  /-- Whether files are texts of their own. -/
  separate : Bool
  /-- Whether files are put in the place of those that were read, and how the old ones are named
  then. -/
  inPlace : Option String
  width : Nat

/-- The state of an editor. -/
structure Editor where
  space : Edited
  kept : Edited
  number : Nat
  /-- Whether something was replaced since the line was read. -/
  replaced : Bool
  /-- What is printed at the end of the cycle, the last first. -/
  later : List Later
  used : Option Sought
  ranges : List (Nat × RangeState)
  /-- What is left of the file that is read. -/
  lines : List Edited
  /-- The file that is read. -/
  path : Option String
  /-- The files that are to be read. -/
  paths : List String
  /-- The outputs whose last line has no end; the first one has the number zero. -/
  unended : List Nat
  /-- What is left of files that are read line by line. -/
  sources : List (String × List Edited)
  /-- Whether an input could not be read. -/
  bad : Bool
  /-- What comes in the place of the file, the last first. -/
  gathered : List String

/-- An action of an editor. -/
abbrev Editing := StateT Editor Act

/-- What a step leads to. -/
inductive Outcome where
  | goOn (place : Nat)
  /-- The cycle ends; the text is printed if it may be. -/
  | done (printed : Bool)
  /-- The cycle begins anew with what is left of the text. -/
  | again
  | quit (printed : Bool) (status : Nat)

/-! ## 2. Output -/

/-- The descriptor of a file to write to. -/
def outputDescriptor (n : Nat) : Nat := 10 + n

/-- Writes to an output: the first one has the number zero. -/
def write (s : Style) (output : Nat) (text : String) (ended : Bool) : Editing Unit := do
  let e ← get
  let text := if e.unended.contains output then s.lineEnd.toString ++ text else text
  let text := if ended then text ++ s.lineEnd.toString else text
  let others := e.unended.filter (· ≠ output)
  set { e with unended := if ended then others else output :: others }
  if output ≠ 0 then put (outputDescriptor (output - 1)) text
  else if s.inPlace.isSome then modify fun e => { e with gathered := text :: e.gathered }
  else print text

/-- Writes a text as it is. -/
def writeRaw (s : Style) (text : String) : Editing Unit := do
  let before := (← get).unended
  write s 0 text false
  let others := before.filter (· ≠ 0)
  modify fun e => { e with unended := others }

/-- Writes the text that is edited. -/
def writeEdited (s : Style) (output : Nat) (x : Edited) : Editing Unit :=
  write s output x.text x.ended

/-- The lines of a text, each with whether it has an end. -/
def editedLines (lineEnd : Char) (text : String) : List Edited :=
  let parts := text.splitOn lineEnd.toString
  let whole := (parts.dropLast).map fun p => ⟨p, true⟩
  match parts.getLast? with
  | none | some "" => whole
  | some last => whole ++ [⟨last, false⟩]

/-- Complains and leaves the tool. -/
def panic {α : Type} (text : String) : Editing α := do
  complain text
  stop 4

/-- Writes what waits for the end of the cycle. -/
def writeLater (s : Style) : Editing Unit := do
  let later := (← get).later.reverse
  modify fun e => { e with later := [] }
  later.forM fun
    | .text t => writeRaw s t
    | .file path => do
      match ← (inputText (if path = "/dev/stdin" then "-" else path) : Act _) with
      | .ok t => writeRaw s t
      | .error e =>
        if e = .isDirectory then panic ("read error on " ++ path ++ ": " ++ e.text)
        writeRaw s ""

/-! ## 3. Input -/

/-- The path under which the old file is kept. -/
def backupPath (path suffix : String) : String :=
  let base := lastComponent path
  let name :=
    if suffix.toList.contains '*' then base.intercalate (suffix.splitOn "*") else base ++ suffix
  if name.toList.contains '/' then name
  else
    let directory := String.ofList (path.toList.take (path.length - base.length))
    directory ++ name

/-- Puts what was gathered in the place of the file that was read. -/
def closeFile (s : Style) : Editing Unit := do
  let e ← get
  match e.path, s.inPlace with
  | some path, some suffix =>
    let text := String.join e.gathered.reverse
    set { e with path := none, gathered := [], unended := e.unended.filter (· ≠ 0) }
    let fs ← (files : Act _)
    let wide := Text.widen path
    match fs.read? wide, fs.locate wide with
    | some old, .ok spot =>
      let fresh : FileData := { old with bytes := Text.toBytes text, native := none }
      let moved := if suffix = "" then fs.take spot
        else
          match fs.rename wide (Text.widen (backupPath path suffix)) with
          | .ok fs => fs
          | .error _ => fs.take spot
      setFiles (moved.addFile spot fresh)
    | _, _ => pure ()
  | _, _ => set { e with path := none }

/-- Says that an input cannot be read. -/
def missingInput (path : String) (e : Errno) : Editing Unit := do
  complain ("can't read " ++ path ++ ": " ++ e.text)
  modify fun e => { e with bad := true }

/-- Opens the next file that has lines; without one the result is false. -/
def openNext (s : Style) : List String → Editing Bool
  | [] => return false
  | path :: rest => do
    closeFile s
    modify fun e => { e with paths := rest }
    if s.inPlace.isSome then
      match ← (resolve path : Act _) with
      | .ok (.file _) => pure ()
      | .ok _ => panic ("couldn't edit " ++ path ++ ": not a regular file")
      | .error _ => pure ()
    match ← (inputText path : Act _) with
    | .error e =>
      if e = .isDirectory then panic ("read error on " ++ path ++ ": " ++ e.text)
      else
        missingInput path e
        openNext s rest
    | .ok text =>
      let lines := editedLines s.lineEnd text
      modify fun e => { e with lines, path := some path }
      if s.separate then
        modify fun e =>
          { e with number := 0, ranges := [], sources := [] }
      if lines.isEmpty then openNext s rest else return true

/-- The next line of the input. -/
def nextLine (s : Style) : Editing (Option Edited) := do
  let e ← get
  let more ← if e.lines.isEmpty then openNext s e.paths else pure true
  if ¬ more then return none
  else
    let e ← get
    match e.lines with
    | [] => return none
    | l :: lines =>
      set { e with lines, number := e.number + 1 }
      return some l

/-- Whether none of the files has a line; those in front that have none are passed over. -/
def noLineIn (s : Style) : List String → Editing Bool
  | [] => return true
  | path :: rest => do
    let text ← (do
      if path = "-" then return .ok (← lookAhead 0) else fileText path : Act (Except Errno String))
    match text with
    | .ok t =>
      if t = "" then
        modify fun e => { e with paths := rest }
        noLineIn s rest
      else return false
    | .error e =>
      if e ≠ .isDirectory then missingInput path e
      modify fun e => { e with paths := rest }
      noLineIn s rest

/-- Whether the line is the last one. -/
def isLast (s : Style) : Editing Bool := do
  let e ← get
  if ¬ e.lines.isEmpty then return false
  else if s.separate then return true
  else noLineIn s e.paths

/-! ## 4. Guards -/

/-- The text as it is searched. -/
def Style.subject (s : Style) (sought : Sought) (text : String) : Subject :=
  ⟨text.toList.toArray, sought.ignoreCase, sought.multiline && s.lineEnd = '\n'⟩

/-- What is looked for, which is what was looked for last if nothing is given. -/
def soughtNow (s : Option Sought) : Editing Sought := do
  match s, (← get).used with
  | some s, _ =>
    modify fun e => { e with used := some s }
    return s
  | none, some s => return s
  | none, none =>
    complain "-e expression #1, char 0: no previous regular expression"
    stop 1

/-- Whether an address picks the line. -/
def picks (s : Style) : Address → Editing Bool
  | .line n => return (← get).number = n
  | .every first step => do
    let n := (← get).number
    return first ≤ n ∧ (n - first) % step = 0
  | .last => isLast s
  | .holding sought => do
    let sought ← soughtNow sought
    let x := s.subject sought (← get).space.text
    return (sought.regex.find? x 0).isSome

/-- Sets whether a command is within its range of lines. -/
def setRange (place : Nat) (r : RangeState) : Editing Unit :=
  modify fun e => { e with ranges := (place, r) :: e.ranges.filter fun p => p.1 ≠ place }

/-- Whether the line is in a range that was not begun before. -/
def beginsRange (s : Style) (place : Nat) (first : Address) (last : RangeEnd) : Editing Bool := do
  if ¬ (← picks s first) then return false
  else
    let n := (← get).number
    let upTo (m : Nat) : Editing Bool := do
      if n < m then setRange place (.inside (some m))
      return true
    match last with
    | .picked (.line m) => upTo m
    | .later m => upTo (n + m)
    | .multiple m => if m = 0 then return true else upTo ((n / m + 1) * m)
    | .picked _ =>
      setRange place (.inside none)
      return true

/-- Whether the line is in the range of a command. -/
def inRange (s : Style) (place : Nat) (first : Address) (last : RangeEnd) : Editing Bool := do
  let e ← get
  let state := match e.ranges.lookup place, first with
    | some r, _ => r
    | none, .line 0 => .inside none
    | none, _ => .before
  match state with
  | .before => beginsRange s place first last
  | .inside (some m) =>
    if m ≤ e.number then setRange place .before
    return e.number ≤ m
  | .inside none =>
    match last with
    | .picked a =>
      if ← picks s a then setRange place .before
      return true
    | _ => return true

/-- Whether the guard of a command lets the line pass. -/
def passes (s : Style) (place : Nat) (g : Guard) : Editing Bool := do
  let inside ← match g.first, g.last with
    | none, _ => pure true
    | some a, none => picks s a
    | some a, some b => inRange s place a b
  return inside != g.negated

/-! ## 5. Replacing -/

/-- A letter in another case. -/
def LetterCase.letter (l : LetterCase) (c : Char) : Char :=
  match l with
  | kept => c
  | upper => c.toUpper
  | lower => c.toLower

/-- A text in other cases. -/
def changedLetters (letters : LetterCase) (first : Option LetterCase) : List Char → List Char
  | [] => []
  | c :: cs => (first.getD letters).letter c :: cs.map letters.letter

/-- The text that pieces of a replacement give; `carried` is what was to happen to the first letter
of a group that had none. -/
def replacementText (f : Regex.Found) (x : Subject) : (carried : Option LetterCase) → List Piece →
    List Char
  | _, [] => []
  | carried, p :: ps =>
    let first := p.firstLetter <|> carried
    let text := changedLetters p.letters first p.text.toList
    let first := if p.text = "" then first else none
    match p.group with
    | none => text ++ replacementText f x none ps
    | some n =>
      let group := f.group x n
      let next := if group.isEmpty ∧ p.firstLetter.isSome then first else none
      text ++ changedLetters p.letters first group ++ replacementText f x next ps

/-- Replaces what is found from a place on; `seen` counts what was found, `last` is where that
ended.  The result is none if nothing was replaced. -/
def replaceFrom (u : Substitution) (r : Regex) (x : Subject) : (fuel : Nat) → (place seen : Nat) →
    (last : Option Nat) → Option (List Char)
  | 0, _, _, _ => none
  | fuel + 1, place, seen, last =>
    let rest (from_ : Nat) : List Char := (x.text.extract from_ x.text.size).toList
    match r.find? x place with
    | none => none
    | some f =>
      let front := (x.text.extract place f.first).toList
      let isEmpty := f.last = f.first
      let passed := (x.text.extract f.last (f.last + 1)).toList
      let goOn (seen : Nat) (last : Option Nat) : Option (List Char) :=
        if isEmpty then
          if f.last < x.text.size then
            (replaceFrom u r x fuel (f.last + 1) seen last).map fun t => passed ++ t
          else none
        else replaceFrom u r x fuel f.last seen last
      let leftAlone (seen : Nat) (last : Option Nat) : Option (List Char) :=
        (goOn seen last).map fun t => front ++ (x.text.extract f.first f.last).toList ++ t
      if isEmpty && last == some f.first then leftAlone seen last
      else if seen + 1 < u.from?.getD 1 then leftAlone (seen + 1) (some f.last)
      else
        let text := replacementText f x none u.pieces
        let after := if u.everywhere then goOn (seen + 1) (some f.last) else none
        some (front ++ text ++ after.getD (rest f.last))

/-- Carries out a substitution. -/
def substituteIn (perform : Performer) (s : Style) (u : Substitution) : Editing Unit := do
  let sought ← soughtNow u.sought
  let e ← get
  let x := s.subject sought e.space.text
  match replaceFrom u sought.regex x (2 * x.text.size + 3) 0 0 none with
  | none => pure ()
  | some cs =>
    let text := String.ofList cs
    let text ← if u.evaluated then do
        let out ← (commandOutput perform text : Act _)
        let chars := out.toList
        pure (if chars.getLast? = some '\n' then String.ofList chars.dropLast else out)
      else pure text
    let space : Edited := { e.space with text }
    modify fun e => { e with space, replaced := true }
    if u.printed then writeEdited s 0 space
    match u.output with
    | some n => writeEdited s (n + 1) space
    | none => pure ()

/-! ## 6. Showing lines -/

/-- A character as it is shown without ambiguity. -/
def shownChar (c : Char) : String :=
  if c = '\\' then "\\\\" else if isPrintable c then c.toString else escapedChar c

/-- The pieces of a line, with line ends between them so that they fit a width. -/
def foldedPieces (width : Nat) : (used : Nat) → List String → List String
  | _, [] => []
  | used, p :: ps =>
    if width ≠ 0 ∧ width ≤ used + p.length then "\\\n" :: p :: foldedPieces width p.length ps
    else p :: foldedPieces width (used + p.length) ps

/-- A text as it is shown without ambiguity. -/
def shownText (lineEnd : Char) (width : Nat) (text : String) : String :=
  String.join (foldedPieces width 0 (text.toList.map shownChar)) ++ "$" ++ lineEnd.toString

/-! ## 7. Commands -/

/-- The text up to the first line end and what follows that, if there is one. -/
def splitLine (lineEnd : Char) (text : String) : String × Option String :=
  let cs := text.toList
  let front := cs.takeWhile (· ≠ lineEnd)
  (String.ofList front,
    if front.length = cs.length then none else some (String.ofList (cs.drop (front.length + 1))))

/-- Changes the text that is edited. -/
def setText (f : String → String) : Editing Unit :=
  modify fun e => { e with space := { e.space with text := f e.space.text } }

/-- The next line of a file that is read line by line. -/
def sourceLine (s : Style) (path : String) : Editing (Option Edited) := do
  let e ← get
  let lines ← match e.sources.lookup path with
    | some lines => pure lines
    | none => do
      match ← (inputText (if path = "/dev/stdin" then "-" else path) : Act _) with
      | .ok t => pure (editedLines s.lineEnd t)
      | .error e =>
        if e = .isDirectory then panic ("read error on " ++ path ++ ": " ++ e.text) else pure []
  let others := e.sources.filter fun p => p.1 ≠ path
  match lines with
  | [] =>
    set { e with sources := (path, []) :: others }
    return none
  | l :: rest =>
    set { e with sources := (path, rest) :: others }
    return some l

/-- Carries out a command that its guard lets pass; `place` is that of the command. -/
def carryOut (perform : Performer) (s : Style) (place : Nat) (g : Guard) : Command → Editing Outcome
  | .block _ | .nothing => return .goOn (place + 1)
  | .jump kind target => do
    let replaced := (← get).replaced
    if kind = .always then return .goOn target
    else
      let jumps := replaced == (kind == .replaced)
      if replaced then modify fun e => { e with replaced := false }
      return .goOn (if jumps then target else place + 1)
  | .append t => do
    modify fun e => { e with later := .text t :: e.later }
    return .goOn (place + 1)
  | .insert t => do
    writeRaw s t
    return .goOn (place + 1)
  | .change t => do
    let state := (← get).ranges.lookup place
    let isInside : Bool := match g.last, state with
      | some _, some (.inside _) => true
      | _, _ => false
    if g.negated ∨ ¬ isInside then writeRaw s t
    return .done false
  | .delete => return .done false
  | .deleteFirst => do
    match (splitLine s.lineEnd (← get).space.text).2 with
    | none => return .done false
    | some rest =>
      setText fun _ => rest
      return .again
  | .execute command => do
    let text := (← get).space.text
    let out ← (commandOutput perform (if command = "" then text else command) : Act _)
    if command = "" then
      let cs := out.toList
      setText fun _ => if cs.getLast? = some '\n' then String.ofList cs.dropLast else out
    else writeRaw s out
    return .goOn (place + 1)
  | .fileName => do
    writeRaw s ((← get).path.getD "-" ++ "\n")
    return .goOn (place + 1)
  | .lineNumber => do
    writeRaw s (toString (← get).number ++ "\n")
    return .goOn (place + 1)
  | .fetch => do
    modify fun e => { e with space := e.kept }
    return .goOn (place + 1)
  | .fetchAppend => do
    modify fun e =>
      { e with space := ⟨e.space.text ++ s.lineEnd.toString ++ e.kept.text, e.kept.ended⟩ }
    return .goOn (place + 1)
  | .hold => do
    modify fun e => { e with kept := e.space }
    return .goOn (place + 1)
  | .holdAppend => do
    modify fun e =>
      { e with kept := ⟨e.kept.text ++ s.lineEnd.toString ++ e.space.text, e.space.ended⟩ }
    return .goOn (place + 1)
  | .exchange => do
    modify fun e => { e with space := e.kept, kept := e.space }
    return .goOn (place + 1)
  | .listed width => do
    let text := (← get).space.text
    writeRaw s (shownText s.lineEnd (width.getD s.width) text)
    return .goOn (place + 1)
  | .next => do
    if ← isLast s then return .done true
    if ¬ s.quiet then writeEdited s 0 (← get).space
    writeLater s
    match ← nextLine s with
    | none => return .done false
    | some l =>
      modify fun e => { e with space := l, replaced := false }
      return .goOn (place + 1)
  | .nextAppend => do
    if ← isLast s then return .done true
    writeLater s
    match ← nextLine s with
    | none => return .done true
    | some l =>
      modify fun e =>
        { e with
          space := ⟨e.space.text ++ s.lineEnd.toString ++ l.text, l.ended⟩, replaced := false }
      return .goOn (place + 1)
  | .print => do
    writeEdited s 0 (← get).space
    return .goOn (place + 1)
  | .printFirst => do
    let x := (← get).space
    let (front, rest) := splitLine s.lineEnd x.text
    write s 0 front (rest.isSome || x.ended)
    return .goOn (place + 1)
  | .quit quiet status => return .quit (!quiet) status
  | .readFile path => do
    modify fun e => { e with later := .file path :: e.later }
    return .goOn (place + 1)
  | .readLine path => do
    match ← sourceLine s path with
    | none => pure ()
    | some l =>
      let text := if l.ended then l.text ++ s.lineEnd.toString else l.text
      modify fun e => { e with later := .text text :: e.later }
    return .goOn (place + 1)
  | .write n => do
    writeEdited s (n + 1) (← get).space
    return .goOn (place + 1)
  | .writeFirst n => do
    let x := (← get).space
    let (front, rest) := splitLine s.lineEnd x.text
    write s (n + 1) front (rest.isSome || x.ended)
    return .goOn (place + 1)
  | .substitute u => do
    substituteIn perform s u
    return .goOn (place + 1)
  | .exchangeLetters table => do
    setText fun t => t.map fun c => (table.lookup c).getD c
    return .goOn (place + 1)
  | .clear => do
    setText fun _ => ""
    return .goOn (place + 1)

/-- Carries out the command at a place, or ends the cycle behind the last one. -/
def step (perform : Performer) (s : Style) (place : Nat) : Editing Outcome := do
  match s.steps[place]? with
  | none => return .done true
  | some ⟨g, c⟩ =>
    if ← passes s place g then carryOut perform s place g c
    else
      match c with
      | .block past => return .goOn past
      | _ => return .goOn (place + 1)

/-! ## 8. Cycles -/

/-- Where an editor is between two steps: at a command, or before the next line. -/
inductive Position where
  | command (place : Nat)
  | line

/-- Ends a cycle. -/
def endCycle (s : Style) (printed : Bool) : Editing Unit := do
  if printed ∧ ¬ s.quiet then writeEdited s 0 (← get).space
  writeLater s

/-- Goes one step; gives the status at the end. -/
def advance (perform : Performer) (s : Style) : Position → Editing (Position ⊕ Nat)
  | .line => do
    match ← nextLine s with
    | none => return .inr 0
    | some l =>
      modify fun e => { e with space := l, replaced := false }
      return .inl (.command 0)
  | .command place => do
    match ← step perform s place with
    | .goOn place => return .inl (.command place)
    | .done printed =>
      endCycle s printed
      return .inl .line
    | .again =>
      endCycle s false
      return .inl (.command 0)
    | .quit printed status =>
      if printed ∧ ¬ s.quiet then writeEdited s 0 (← get).space
      writeLater s
      return .inr status

/-- Edits files; gives the status. -/
def editFiles (perform : Performer) (s : Style) (paths : List String) : Act Nat := do
  let start : Editor :=
    { space := ⟨"", true⟩, kept := ⟨"", true⟩, number := 0, replaced := false, later := []
      used := none, ranges := [], lines := [], path := none, paths, unended := [], sources := []
      bad := false, gathered := [] }
  let go (state : Editor × Position) : Act ((Editor × Position) ⊕ (Editor × Nat)) := do
    let (next, e) ← (advance perform s state.2).run state.1
    match next with
    | .inl p => return .inl (e, p)
    | .inr status => return .inr (e, status)
  let (e, status) ← rounds go roundLimit (start, .line)
  let (_, e) ← (closeFile s).run e
  return if e.bad then 2 else status

/-! ## 9. The tool -/

/-- The options of the tool. -/
def editTable : OptionTable :=
  ((({ OptionTable.letters "nEruszb" "efl" with loose := "i" }).withFlags [("quiet", "n"),
    ("silent", "n"), ("regexp-extended", "E"), ("separate", "s"), ("null-data", "z"),
    ("zero-terminated", "z"),
    ("unbuffered", "u"), ("binary", "b"), ("posix", "posix"), ("debug", "debug"),
    ("sandbox", "sandbox"), ("follow-symlinks", "follow-symlinks")]).withValues
    [("expression", "e"), ("file", "f"), ("line-length", "l")]).withLoose [("in-place", "i")]

/-- Says how the tool is used and leaves it. -/
def refuseEdit {α : Type} : Act α := do
  say "Usage: sed [OPTION]... \x7bscript-only-if-no-other-script\x7d [input-file]...\n\n"
  stop 1

/-- Where the reader of a script is. -/
def Source.shown (r : ScriptReader) : String :=
  match r.source with
  | .expression n => "-e expression #" ++ toString n ++ ", char " ++ toString r.read
  | .file path => "file " ++ path ++ " line " ++ toString r.line

/-- Opens the files to write to. -/
def openOutputs (paths : List String) : Act Unit := do
  for (path, i) in paths.zipIdx do
    match ← openFile path .write with
    | .ok n => setDescriptor (outputDescriptor i) (some n)
    | .error e => refuse 4 ("couldn't open file " ++ path ++ ": " ++ e.text)

/-- Reads the parts of a script. -/
def readScript (parts : List (Source × String × Bool × Bool)) : Act ScriptReader := do
  let rec go (r : ScriptReader) : List (Source × String × Bool × Bool) → Act ScriptReader
    | [] => return r
    | (source, text, extended, sandboxed) :: rest => do
      match (readPart source text).run { r with extended, sandboxed } with
      | .ok _ r => go r rest
      | .error e r =>
        openOutputs r.outputs
        refuse 1 (Source.shown r ++ ": " ++ e.message)
  let r ← go .start parts
  match r.blocks with
  | (_, source, line) :: _ =>
    openOutputs r.outputs
    let shown := Source.shown { r with source, read := 0, line }
    refuse 1 (shown ++ ": " ++ ScriptFault.openBlock.message)
  | [] => return r

/-- The parts of a script that the options name, in their order. -/
def scriptParts (sandboxed : Bool) : (count : Nat) → (extended : Bool) → List (String × String) →
    Act (List (Source × String × Bool × Bool) × Nat × Bool)
  | count, extended, [] => return ([], count, extended)
  | count, extended, (key, value) :: rest => do
    if key = "e" then
      let (parts, last) ← scriptParts sandboxed (count + 1) extended rest
      return ((.expression (count + 1), value, extended, sandboxed) :: parts, last)
    else if key = "f" then
      match ← inputText value with
      | .error ⟨21⟩ => scriptParts sandboxed count extended rest
      | .error e => refuse 4 ("couldn't open file " ++ value ++ ": " ++ e.text)
      | .ok text =>
        let (parts, last) ← scriptParts sandboxed count extended rest
        return ((.file value, text, extended, sandboxed) :: parts, last)
    else scriptParts sandboxed count (extended || key = "E" || key = "r") rest

/-- Edits texts by a script. -/
def sed (perform : Performer) (args : List String) : Act Nat := do
  let g ← match editTable.read args with
    | .ok g => pure g
    | .error e =>
      complain e
      refuseEdit
  if g.has "help" ∨ g.has "version" then return 0
  let sandboxed := g.has "sandbox"
  let (parts, count, extended) ← scriptParts sandboxed 0 false g.options
  let (parts, operands) ←
    if ¬ (g.has "e" ∨ g.has "f") then
      match g.operands with
      | [] => refuseEdit
      | a :: rest => pure ([(Source.expression (count + 1), a, extended, sandboxed)], rest)
    else pure (parts, g.operands)
  let r ← readScript parts
  openOutputs r.outputs
  match placeJumps r with
  | .error name => refuse 4 ("can't find label for jump to \x60" ++ name ++ "'")
  | .ok steps =>
    let inPlace := g.value? "i"
    if inPlace.isSome ∧ operands.isEmpty then refuse 4 "no input files"
    let style : Style :=
      { steps
        quiet := g.has "n" || r.quiet
        lineEnd := if g.has "z" then '\x00' else '\n'
        separate := g.has "s" || inPlace.isSome
        inPlace
        width := ((g.value? "l").bind amount?).getD 70 }
    editFiles perform style (sources operands)

end TidyTree.Tool.Edit
