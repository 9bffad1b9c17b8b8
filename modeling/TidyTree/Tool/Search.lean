/-
TidyTree.Tool.Search — looking for patterns in files.

A line is selected if one of the patterns fits somewhere in it.  What is
printed are the selected lines with lines around them, parts of them, or
only names and counts.
-/
import TidyTree.Regex.Reader
import TidyTree.Tool.Files

namespace TidyTree.Tool

open Shell

/-! ## 1. Patterns -/

/-- What is looked for. -/
structure Needle where
  patterns : List Regex
  ignoreCase : Bool
  wholeWords : Bool
  wholeLines : Bool

namespace Needle

/-- Whether a part of a text stands apart from words before and behind it. -/
def isApart (x : Subject) (first last : Nat) : Bool :=
  !Regex.wordBefore x first && !Regex.wordBehind x last

/-- The longest part from a place on that one pattern fits in the way that is asked for. -/
def lastOf? (n : Needle) (x : Subject) (place : Nat) (r : Regex) : Option Nat :=
  let ends := (r.ends x r.refersBack ⟨place, []⟩).map Hit.place
  if n.wholeLines then if place = 0 then ends.find? (· = x.text.size) else none
  else if n.wholeWords then
    (ends.find? (isApart x place)).filter fun e => e ≠ place || ends.head? = some place
  else ends.head?

/-- The longest part from a place on that one of the patterns fits. -/
def longest? (n : Needle) (x : Subject) (place : Nat) : Option Nat :=
  (n.patterns.filterMap (n.lastOf? x place)).max?

/-- The first part from a place on that one of the patterns fits, in at most `count` places. -/
def findFrom (n : Needle) (x : Subject) : (count : Nat) → (place : Nat) → Option (Nat × Nat)
  | 0, _ => none
  | count + 1, place =>
    match n.longest? x place with
    | some last => some (place, last)
    | none => findFrom n x count (place + 1)

/-- The first part from a place on that one of the patterns fits. -/
def find? (n : Needle) (x : Subject) (place : Nat) : Option (Nat × Nat) :=
  n.findFrom x (x.text.size + 1 - place) place

/-- All parts that are not empty and that the patterns fit one after the other. -/
def allFrom (n : Needle) (x : Subject) : (fuel : Nat) → (place : Nat) → List (Nat × Nat)
  | 0, _ => []
  | fuel + 1, place =>
    match n.find? x place with
    | none => []
    | some (first, last) =>
      if last = first then if last < x.text.size then allFrom n x fuel (first + 1) else []
      else (first, last) :: allFrom n x fuel last

/-- The text of a line as it is searched. -/
def subject (n : Needle) (line : String) : Subject := ⟨line.toList.toArray, n.ignoreCase, false⟩

end Needle

/-- How patterns are written. -/
inductive PatternKind where
  | basic | extended | fixed
deriving DecidableEq

/-- The pattern that a text fits. -/
def fixedPattern (s : String) : Regex :=
  s.toList.foldr (fun c r => .sequence (.one c) r) .empty

/-- Whether a text is a class in brackets that lack the brackets around them. -/
def isBareClass (s : List Char) : Bool :=
  let rec after : List Char → Bool
    | [] => false
    | [':', ']'] => true
    | ':' :: ']' :: _ => true
    | ']' :: _ => false
    | _ :: cs => after cs
  let rec go : List Char → Bool
    | '\\' :: _ :: cs => go cs
    | '[' :: ':' :: cs => after cs
    | '[' :: _ => false
    | _ :: cs => go cs
    | [] => false
  go s

/-- A repetition at the start of a branch, which repeats nothing, as it is warned about. -/
def idleRepetitions (atStart : Bool) : (cs : List Char) → List String
  | [] => []
  | '\\' :: _ :: cs => idleRepetitions false cs
  | c :: cs =>
    if c = '(' ∨ c = '|' ∨ c = '^' then idleRepetitions true cs
    else if atStart ∧ (c = '*' ∨ c = '+' ∨ c = '?') then c.toString :: idleRepetitions true cs
    else if atStart ∧ c = '\x7b' then
      match interval ⟨true, false⟩ cs with
      | .bounds _ _ _ => "\x7b...\x7d" :: idleRepetitions false cs
      | _ => idleRepetitions false cs
    else idleRepetitions false cs

/-- Reads one pattern. -/
def readPattern (kind : PatternKind) (s : String) : Except String Regex :=
  match kind with
  | .fixed => .ok (fixedPattern s)
  | _ =>
    match Regex.ofText ⟨kind = .extended, false⟩ s.toList with
    | .ok (r, _) =>
      if isBareClass s.toList then .error "character class syntax is [[:space:]], not [:space:]"
      else .ok r
    | .error e => .error e.message

/-! ## 2. What is printed -/

/-- How the result of a search is shown. -/
structure SearchStyle where
  needle : Needle
  inverted : Bool
  /-- Only the parts that fit. -/
  parts : Bool
  names : Bool
  numbers : Bool
  offsets : Bool
  tabbed : Bool
  nameEnd : String
  lineEnd : Char
  before : Nat
  after : Nat
  /-- What stands between groups of lines, if anything does. -/
  groupEnd : Option String
  most : Option Nat
  counts : Bool
  /-- Only the names of files in which something was selected, or nothing. -/
  listed : Option Bool
  quiet : Bool
  asText : Bool
  skipsBinary : Bool
  silent : Bool
  inputName : String
  included : List (List Glob)
  excluded : List (List Glob)
  excludedDirectories : List (List Glob)
  followsLinks : Bool
  skipsDirectories : Bool

/-- A line of a text. -/
structure SearchedLine where
  number : Nat
  /-- How many bytes come before it. -/
  offset : Nat
  text : String

/-- The lines of a text with their numbers and places. -/
def searchedLines (lineEnd : Char) (text : String) : List SearchedLine :=
  let pieces := text.splitOn lineEnd.toString
  let pieces := if pieces.getLast? = some "" then pieces.dropLast else pieces
  let step (state : List SearchedLine × Nat × Nat) (s : String) : List SearchedLine × Nat × Nat :=
    let (done, number, offset) := state
    (⟨number, offset, s⟩ :: done, number + 1, offset + s.length + 1)
  (pieces.foldl step ([], 1, 0)).1.reverse

/-- What stands in front of a line or a part of one. -/
def SearchStyle.front (s : SearchStyle) (name : String) (sign : Char) (number offset : Nat) :
    String :=
  let fields := (if s.names then name ++ (if s.nameEnd = "" then sign.toString else s.nameEnd)
      else "") ++
    (if s.numbers then toString number ++ sign.toString else "") ++
    (if s.offsets then toString offset ++ sign.toString else "")
  if s.tabbed ∧ fields ≠ "" then fields ++ "\t" else fields

/-- A selected line as it is printed. -/
def SearchStyle.selectedText (s : SearchStyle) (name : String) (l : SearchedLine) : String :=
  if s.parts then
    if s.inverted then ""
    else
      let x := s.needle.subject l.text
      String.join ((s.needle.allFrom x (x.text.size + 2) 0).map fun (first, last) =>
        s.front name ':' l.number (l.offset + first) ++
          String.ofList (x.text.extract first last).toList ++ s.lineEnd.toString)
  else s.front name ':' l.number l.offset ++ l.text ++ s.lineEnd.toString

/-- A line near a selected one as it is printed. -/
def SearchStyle.nearText (s : SearchStyle) (name : String) (l : SearchedLine) : String :=
  if s.parts then ""
  else s.front name '-' l.number l.offset ++ l.text ++ s.lineEnd.toString

/-- The lines that are printed, with the numbers of those that are selected; `grouped` says that
something was printed before. -/
def SearchStyle.shownLines (s : SearchStyle) (name : String) (grouped : Bool)
    (ls : List SearchedLine) (chosen : List Nat) : String :=
  let near (n : Nat) : Bool := chosen.any fun c => n ≤ c + s.after && c ≤ n + s.before
  let step (state : List String × Option Nat) (l : SearchedLine) : List String × Option Nat :=
    let (done, last) := state
    let isChosen := chosen.contains l.number
    if isChosen || near l.number then
      let gap := match last with
        | some n => n + 1 != l.number
        | none => grouped
      let separator := match s.groupEnd with
        | some t => if gap then [t] else []
        | none => []
      let shown := if isChosen then s.selectedText name l else s.nearText name l
      (shown :: separator ++ done, some l.number)
    else (done, last)
  String.join ((ls.foldl step ([], none)).1.reverse)

/-! ## 3. Searching -/

/-- What has come of a search up to some file. -/
structure SearchState where
  selected : Bool
  trouble : Bool
  printed : Bool

/-- Says that there is trouble with a file. -/
def SearchStyle.trouble (s : SearchStyle) (text : String) (state : SearchState) :
    Act SearchState := do
  if ¬ s.silent then complain text
  return { state with trouble := true }

/-- Searches a text that has a name. -/
def SearchStyle.searchText (s : SearchStyle) (state : SearchState) (name text : String) :
    Act SearchState := do
  let isBinary := !s.asText && s.lineEnd == '\n' && text.toList.contains '\x00'
  if isBinary ∧ s.skipsBinary then return state
  let ls := searchedLines s.lineEnd text
  let selects (l : SearchedLine) : Bool :=
    (s.needle.find? (s.needle.subject l.text) 0).isSome != s.inverted
  let most := if s.quiet ∨ s.listed.isSome then some 1 else s.most
  let chosen := match most with
    | some n => (ls.filter selects).take n
    | none => ls.filter selects
  let found := !chosen.isEmpty
  if s.quiet then
    if found then stop 0
    return state
  let state := { state with selected := state.selected || found }
  match s.listed with
  | some wanted =>
    if found = wanted then
      print (name ++ (if s.nameEnd = "" then "\n" else s.nameEnd))
    return state
  | none =>
    if s.counts then
      print ((if s.names then name ++ (if s.nameEnd = "" then ":" else s.nameEnd) else "") ++
        toString chosen.length ++ "\n")
      return state
    else if isBinary then
      if found then complain (name ++ ": binary file matches")
      return state
    else
      let shown := s.shownLines name state.printed ls (chosen.map (·.number))
      print shown
      return { state with printed := state.printed || found }

/-- The file to which the output goes, if it is one. -/
def outputFile? : Act (Option Nat) := do
  let m ← get
  match (m.opening? 1).bind fun n => (m.world.openings[n]?).map Opening.channel with
  | some (.file id) => return some id
  | _ => return none

/-- Searches the file at a path. -/
def SearchStyle.searchFile (s : SearchStyle) (state : SearchState) (path name : String) :
    Act SearchState := do
  let same ← (do
    match ← resolve path, ← outputFile? with
    | .ok (.file id), some out => return id = out
    | _, _ => return false : Act Bool)
  if same ∧ ¬ s.quiet ∧ s.listed.isNone ∧ ¬ s.counts ∧ s.most ≠ some 1 then
    s.trouble (name ++ ": input file is also the output") state
  else
    match ← fileText path with
    | .error e => s.trouble (name ++ ": " ++ e.text) state
    | .ok text => s.searchText state name text

/-- Whether a file of that name is passed over. -/
def SearchStyle.passesOver (s : SearchStyle) (name : String) : Bool :=
  let cs := (lastComponent name).toList
  s.excluded.any (fits · cs) || (!s.included.isEmpty && !s.included.any (fits · cs))

/-- Searches all files in the directories at some paths; where a path is shown it is without the
`hidden` characters at its front. -/
def SearchStyle.searchTrees (s : SearchStyle) (hidden : Nat) : (fuel : Nat) → SearchState →
    List String → Act SearchState
  | 0, state, _ => return state
  | _ + 1, state, [] => return state
  | fuel + 1, state, path :: paths => do
    let name := String.ofList (path.toList.drop hidden)
    match ← entryAt path with
    | .ok (.dir _ _) =>
      if s.excludedDirectories.any (fits · (lastComponent path).toList) then
        searchTrees s hidden fuel state paths
      else
        let names ← entryNames path
        searchTrees s hidden fuel state (names.map (inside path) ++ paths)
    | .ok (.leaf (.file _)) =>
      if s.passesOver path then searchTrees s hidden fuel state paths
      else
        let state ← s.searchFile state path name
        searchTrees s hidden fuel state paths
    | .ok (.leaf (.link _)) =>
      if s.followsLinks then
        if ← isDirectory path then
          let names ← entryNames path
          searchTrees s hidden fuel state (names.map (inside path) ++ paths)
        else
          let state ← if s.passesOver path then pure state else s.searchFile state path name
          searchTrees s hidden fuel state paths
      else searchTrees s hidden fuel state paths
    | _ => searchTrees s hidden fuel state paths

/-- How many files and directories are gone through at most. -/
def searchLimit : Nat := 1000000

/-- Searches what an operand stands for. -/
def SearchStyle.searchOperand (s : SearchStyle) (recursive : Bool) (named : Option Bool)
    (several : Bool) (state : SearchState) (path : String) : Act SearchState := do
  let shown := { s with names := named.getD several }
  if path = "-" then
    match ← readRest 0 with
    | .ok text => shown.searchText state s.inputName text
    | .error e => s.trouble (s.inputName ++ ": " ++ e.text) state
  else if ← isDirectory path then
    if recursive then
      let names ← entryNames path
      let shown := { s with names := named.getD true }
      if s.excludedDirectories.any (fits · (lastComponent path).toList) then return state
      shown.searchTrees 0 searchLimit state (names.map (inside path))
    else if s.skipsDirectories then return state
    else s.trouble (path ++ ": Is a directory") state
  else if s.passesOver path ∧ (← stands path) then return state
  else shown.searchFile state path path

/-! ## 4. The tool -/

/-- The options of the tool. -/
def searchTable : OptionTable :=
  (((OptionTable.letters "0123456789EFGPHILTUVZabchilnoqrRsuvwxyz" "ABCDdefm").withFlags
    [("extended-regexp", "E"), ("fixed-strings", "F"), ("basic-regexp", "G"),
      ("perl-regexp", "P"), ("ignore-case", "i"), ("no-ignore-case", "no-i"),
      ("word-regexp", "w"), ("line-regexp", "x"), ("null-data", "z"), ("no-messages", "s"),
      ("invert-match", "v"), ("byte-offset", "b"), ("line-number", "n"),
      ("line-buffered", "U"), ("with-filename", "H"), ("no-filename", "h"),
      ("only-matching", "o"), ("quiet", "q"), ("silent", "q"), ("text", "a"),
      ("recursive", "r"), ("dereference-recursive", "R"), ("files-without-match", "L"),
      ("files-with-matches", "l"), ("count", "c"), ("initial-tab", "T"), ("null", "Z"),
      ("binary", "U"), ("unix-byte-offsets", "u"), ("no-group-separator", "no-group")]).withValues
    [("regexp", "e"), ("file", "f"), ("max-count", "m"), ("label", "label"),
      ("binary-files", "binary"), ("directories", "d"), ("devices", "D"),
      ("include", "include"), ("exclude", "exclude"), ("exclude-dir", "exclude-dir"),
      ("exclude-from", "exclude-from"), ("before-context", "B"), ("after-context", "A"),
      ("context", "C"), ("group-separator", "group")]).withLoose
    [("color", "color"), ("colour", "color")]

/-- Says how the tool is used and leaves it. -/
def refuseSearch {α : Type} : Act α := do
  say ("Usage: grep [OPTION]... PATTERNS [FILE]...\n" ++
    "Try 'grep --help' for more information.\n")
  stop 2

/-- A number of lines around selected ones. -/
def contextLength (s : String) : Act Nat := do
  match amount? s with
  | some n => return n
  | none => refuse 2 (s ++ ": invalid context length argument")

/-- How many lines before and behind a selected one are shown, and whether that was asked for. -/
def contextLengths (g : Given) : Act (Nat × Nat × Bool) := do
  let digits := String.join ((g.options.map (·.1)).filter fun k =>
    k.length = 1 && k.toList.all Char.isDigit)
  let around ← match g.value? "C" with
    | some v => pure (some (← contextLength v))
    | none => pure (amount? digits)
  let before ← match g.value? "B" with
    | some v => pure (some (← contextLength v))
    | none => pure around
  let after ← match g.value? "A" with
    | some v => pure (some (← contextLength v))
    | none => pure around
  return (before.getD 0, after.getD 0, before.isSome || after.isSome)

/-- The texts of the patterns, from the options or the first operand, and the operands that are
left. -/
def patternTexts (g : Given) : Act (List String × List String) := do
  let fromFile (path : String) : Act (List String) := do
    match ← inputText path with
    | .ok text => return lines text
    | .error e => refuse 2 (path ++ ": " ++ e.text)
  let asked := g.options.filter fun o => o.1 = "e" || o.1 = "f"
  if asked.isEmpty then
    match g.operands with
    | [] => refuseSearch
    | p :: rest => return (p.splitOn "\n", rest)
  else
    let texts ← asked.mapM fun o => if o.1 = "e" then pure (o.2.splitOn "\n") else fromFile o.2
    return (texts.flatten, g.operands)

/-- Reads the patterns; complaints stand for all that cannot be read. -/
def readPatterns (kind : PatternKind) (texts : List String) : Act (List Regex) := do
  let read := texts.map (readPattern kind)
  let faults := read.filterMap fun r => match r with
    | .error e => some e
    | .ok _ => none
  if ¬ faults.isEmpty then
    faults.forM complain
    stop 2
  if kind = .extended then
    texts.forM fun t => (idleRepetitions true t.toList).forM fun sign =>
      complain ("warning: " ++ sign ++ " at start of expression")
  return read.filterMap Except.toOption

/-- The patterns of names that options give. -/
def namePatterns (g : Given) (key : String) : List (List Glob) :=
  (g.values key).map fun v => Glob.ofText (v.toList.map fun c => (c, false))

/-- Looks for patterns in files. -/
def grepAs (preset : Option PatternKind) (args : List String) : Act Nat := do
  let g ← match searchTable.read args with
    | .ok g => pure g
    | .error e =>
      complain e
      refuseSearch
  if g.has "help" ∨ g.has "version" ∨ g.has "V" then return 0
  let presetKey := match preset with
    | some .extended => "E"
    | some .fixed => "F"
    | _ => ""
  let kinds := [("E", PatternKind.extended), ("P", .extended), ("F", .fixed), ("G", .basic)].filter
    fun (k, _) => g.has k || k = presetKey
  if kinds.length > 1 then refuse 2 "conflicting matchers specified"
  if (g.value? "D").any fun d => d ≠ "read" && d ≠ "skip" then refuse 2 "unknown devices method"
  if (g.value? "binary").any fun b => !(["binary", "text", "without-match"].contains b) then
    refuse 2 "unknown binary-files type"
  let directories := g.value? "d"
  if directories.any fun d => !(["read", "recurse", "skip"].contains d) then
    complain ("invalid argument " ++ quoted (directories.getD "") ++ " for '--directories'")
    say "Valid arguments are:\n  - 'read'\n  - 'recurse'\n  - 'skip'\n"
    let _ ← attempt (refuseSearch : Act Unit)
    stop 1
  let kind := ((kinds.head?).map (·.2)).getD .basic
  let (before, after, around) ← contextLengths g
  let most ← match g.value? "m" with
    | none => pure none
    | some v =>
      match amount? v with
      | some n => pure (some n)
      | none => if v.toList.head? = some '-' then pure none else refuse 2 "invalid max count"
  if g.has "u" then complain "warning: --unix-byte-offsets (-u) is obsolete"
  let (texts, operands) ← patternTexts g
  let patterns ← readPatterns kind texts
  let selectsNothing := g.has "v" && texts == [""] && !g.has "w" && !g.has "x"
  if (most = some 0 ∨ selectsNothing) ∧ g.last? ["l", "L"] ≠ some "L" then return 1
  let recursive := g.has "r" ∨ g.has "R" ∨ directories = some "recurse"
  let listed := match g.last? ["l", "L"] with
    | some "l" => some true
    | some _ => some false
    | none => none
  let binary := (g.value? "binary").getD (if g.has "I" then "without-match" else "")
  let style : SearchStyle :=
    { needle := ⟨patterns, g.last? ["i", "y", "no-i"] |>.any (· ≠ "no-i"), g.has "w", g.has "x"⟩
      inverted := g.has "v"
      parts := g.has "o"
      names := false
      numbers := g.has "n"
      offsets := g.has "b"
      tabbed := g.has "T"
      nameEnd := if g.has "Z" then "\x00" else ""
      lineEnd := if g.has "z" then '\x00' else '\n'
      before, after
      groupEnd :=
        if around ∧ ¬ g.has "no-group" then some ((g.value? "group").getD "--" ++ "\n") else none
      most
      counts := g.has "c"
      listed
      quiet := g.has "q"
      asText := g.has "a" || binary = "text"
      skipsBinary := binary = "without-match"
      silent := g.has "s"
      inputName := (g.value? "label").getD "(standard input)"
      included := namePatterns g "include"
      excluded := namePatterns g "exclude"
      excludedDirectories := namePatterns g "exclude-dir"
      followsLinks := g.has "R"
      skipsDirectories := directories = some "skip" }
  let named := match g.last? ["H", "h"] with
    | some "H" => some true
    | some _ => some false
    | none => none
  let start : SearchState := ⟨false, false, false⟩
  let state ←
    if operands.isEmpty ∧ recursive then do
      let shown := { style with names := named.getD true }
      let names ← entryNames "."
      shown.searchTrees 2 searchLimit start (names.map (inside "."))
    else
      (sources operands).foldlM (style.searchOperand recursive named (operands.length > 1)) start
  return if state.trouble then 2 else if state.selected then 0 else 1

end TidyTree.Tool
