/-
TidyTree.Tool.Find.Plan — what to look for in trees, and what to do with it.

A condition is built from tests on entries and from actions, which are
conditions too: they hold if they succeed.  The words of a command line
are read one by one, and then put together: what stands side by side has
to hold both, which binds stronger than one of two, and that stronger
than one after the other.
-/
import TidyTree.Regex.Reader
import TidyTree.Tool.Programs

namespace TidyTree.Tool.Find

open Shell

/-! ## 1. Conditions -/

/-- A number to compare with: the same, or more or less than that. -/
structure Bound where
  order : Ordering
  value : Nat

/-- Whether a number is within the bound. -/
def Bound.admits (b : Bound) (n : Nat) : Bool := compare n b.value = b.order

/-- How the bits of a mode are compared. -/
inductive BitsWanted where
  | exactly | all | some
deriving DecidableEq

/-- What is asked about an entry. -/
inductive EntryTest where
  /-- Whether the name or the whole path fits. -/
  | named (whole fold : Bool) (glob : List Glob)
  /-- Whether it is a link whose target fits. -/
  | linked (fold : Bool) (glob : List Glob)
  /-- Whether the whole path fits. -/
  | written (fold : Bool) (r : Regex)
  /-- Whether the kind is one of some letters, looked at the other way round with links. -/
  | kind (opposite : Bool) (letters : List Char)
  | empty
  | size (b : Bound) (unit : Nat)
  | mode (wanted : BitsWanted) (bits : Nat)
  | links (b : Bound)
  | owner (b : Bound)
  /-- How old it is, in days or in minutes. -/
  | age (minutes : Bool) (b : Bound)
  | sameAs (path : String)
  /-- A condition that the shell has for files. -/
  | holds (operator : String)
  | always (answer : Bool)

/-- What is done with an entry; where output goes is the number of an opening. -/
inductive EntryAction where
  | print (ending : String) (out : Option Nat)
  | layout (format : List Char) (out : Option Nat)
  /-- Runs a command for each entry. -/
  | run (command : List String) (within asks : Bool)
  /-- Runs a command for many entries at once; such actions are numbered. -/
  | gather (number : Nat) (command : List String)
  | delete
  | prune
  | quit

/-- A condition on entries. -/
inductive Condition where
  | test (t : EntryTest)
  | action (a : EntryAction)
  | negated (c : Condition)
  | both (a b : Condition)
  | either (a b : Condition)
  | inTurn (a b : Condition)

/-- Whether something is done that shows or changes entries. -/
def Condition.acts : Condition → Bool
  | test _ => false
  | action .prune | action .quit => false
  | action _ => true
  | negated c => c.acts
  | both a b | either a b | inTurn a b => a.acts || b.acts

/-- How links are treated: never followed, followed where one starts, or always. -/
inductive Following where
  | never | starts | always
deriving DecidableEq

/-- What a command line asks for. -/
structure Plan where
  starts : List String
  following : Following
  least : Nat
  most : Option Nat
  /-- Whether what a directory holds comes before the directory. -/
  contentsFirst : Bool
  condition : Condition

/-! ## 2. Putting together -/

/-- A word of a condition. -/
inductive Word where
  | openGroup
  | closeGroup
  | negation (text : String)
  | both (text : String)
  | either (text : String)
  | inTurn
  | single (c : Condition)

/-- The text of a word that joins. -/
def Word.text : Word → String
  | openGroup => "("
  | closeGroup => ")"
  | negation t | both t | either t => t
  | inTurn => ","
  | single _ => ""

/-- The words that are left, or a fault. -/
abbrev Joining := StateT (List Word) (Except String)

mutual

/-- Reads a condition that binds as strong as its level: one after the other, one of two, both. -/
def joined : (fuel : Nat) → (level : Nat) → (before : Option Word) → Joining Condition
  | 0, _, _ => throw "invalid expression"
  | fuel + 1, level, before => do
    let first ← if level = 2 then simple fuel before else joined fuel (level + 1) before
    joinedMore fuel level first

/-- Goes on behind a condition on a level. -/
def joinedMore : (fuel : Nat) → (level : Nat) → Condition → Joining Condition
  | 0, _, c => return c
  | fuel + 1, level, c => do
    match level, ← get with
    | 0, .inTurn :: rest =>
      set rest
      joinedMore fuel 0 (.inTurn c (← joined fuel 1 (some .inTurn)))
    | 1, .either t :: rest =>
      set rest
      joinedMore fuel 1 (.either c (← joined fuel 2 (some (.either t))))
    | 2, .both t :: rest =>
      set rest
      joinedMore fuel 2 (.both c (← simple fuel (some (.both t))))
    | 2, .openGroup :: _ | 2, .negation _ :: _ | 2, .single _ :: _ =>
      joinedMore fuel 2 (.both c (← simple fuel none))
    | _, _ => return c

/-- Reads a condition that nothing joins. -/
def simple : (fuel : Nat) → (before : Option Word) → Joining Condition
  | 0, _ => throw "invalid expression"
  | fuel + 1, before => do
    match ← get with
    | [] =>
      match before with
      | some w => throw ("expected an expression after '" ++ w.text ++ "'")
      | none => throw "invalid expression"
    | .single c :: rest => set rest; return c
    | .negation t :: rest =>
      set rest
      return .negated (← simple fuel (some (.negation t)))
    | .openGroup :: [] =>
      throw ("invalid expression; expected to find a ')' but didn't see one. " ++
        "Perhaps you need an extra predicate after '('")
    | .openGroup :: .closeGroup :: _ =>
      throw "invalid expression; empty parentheses are not allowed."
    | .openGroup :: rest =>
      set rest
      let c ← joined fuel 0 (some .openGroup)
      match ← get with
      | .closeGroup :: rest => set rest; return c
      | _ =>
        throw "invalid expression; I was expecting to find a ')' somewhere but did not see one."
    | .closeGroup :: _ =>
      match before with
      | some w => throw ("expected an expression between '" ++ w.text ++ "' and ')'")
      | none => throw "you have too many ')'"
    | w :: _ =>
      throw ("invalid expression; you have used a binary operator '" ++ w.text ++
        "' with nothing before it.")

end

/-- The condition of some words. -/
def Condition.ofWords (ws : List Word) : Except String Condition := do
  if ws.isEmpty then return .action (.print "\n" none)
  let (c, rest) ← (joined (5 * ws.length + 10) 0 none).run ws
  if rest.isEmpty then
    return if c.acts then c else .both c (.action (.print "\n" none))
  else throw "you have too many ')'"

/-! ## 3. Reading -/

/-- What was read so far, the last word first. -/
structure Reading where
  words : List Word
  following : Following
  least : Nat
  most : Option Nat
  contentsFirst : Bool
  gathered : Nat
  extended : Bool
  /-- Whether regular expressions are written in the old way, with plus signs and question marks. -/
  plainRepeats : Bool

/-- Adds a condition. -/
def Reading.add (r : Reading) (c : Condition) : Reading := { r with words := .single c :: r.words }

/-- Adds a test. -/
def Reading.addTest (r : Reading) (t : EntryTest) : Reading := r.add (.test t)

/-- Adds an action. -/
def Reading.addAction (r : Reading) (a : EntryAction) : Reading := r.add (.action a)

/-- A text in the form in which it is compared. -/
def folded (fold : Bool) (s : String) : String := if fold then s.map Char.toLower else s

/-- The pattern of a text. -/
def globOf (fold : Bool) (s : String) : List Glob :=
  Glob.ofText ((folded fold s).toList.map fun c => (c, false))

/-- The number and what follows it, with a sign in front that says more or less. -/
def boundOf? (s : String) : Option (Bound × List Char) :=
  let (order, cs) : Ordering × List Char := match s.toList with
    | '+' :: cs => (.gt, cs)
    | '-' :: cs => (.lt, cs)
    | cs => (.eq, cs)
  match leadingNumber cs with
  | (some n, rest) => some (⟨order, n⟩, rest)
  | (none, _) => none

/-- A number to compare with. -/
def readBound (name value : String) : Act Bound := do
  match boundOf? value with
  | some (b, []) => return b
  | _ => refuse 1 ("invalid argument \x60" ++ value ++ "' to \x60" ++ name ++ "'")

/-- The letters of kinds. -/
def readKinds (name value : String) : Act (List Char) := do
  if value = "" then refuse 1 ("Arguments to " ++ name ++ " should contain at least one letter")
  value.splitOn "," |>.mapM fun part => do
    match part.toList with
    | [] =>
      refuse 1 ("Last file type in list argument to " ++ name ++
        " is missing, i.e., list is ending on: ','")
    | c :: more =>
      if ¬ "bcdpflsD".toList.contains c then
        refuse 1 ("Unknown argument to " ++ name ++ ": " ++ c.toString)
      if ¬ more.isEmpty then
        refuse 1 ("Must separate multiple arguments to " ++ name ++ " using: ','")
      return c

/-- The test for a size. -/
def readSize (value : String) : Act EntryTest := do
  match boundOf? value with
  | some (b, rest) =>
    let unit : Option Nat := match rest with
      | [] | ['b'] => some 512
      | ['c'] => some 1
      | ['w'] => some 2
      | ['k'] => some 1024
      | ['M'] => some 1048576
      | ['G'] => some 1073741824
      | _ => none
    match unit with
    | some unit => return .size b unit
    | none =>
      refuse 1 ("invalid -size type \x60" ++ ((rest.getLast?).map Char.toString).getD "" ++ "'")
  | none =>
    let last := ((value.toList.getLast?).map Char.toString).getD ""
    if value.length = 1 ∨ ¬ "bcwkMG".toList.contains (last.toList.headD 'c') then
      refuse 1 ("invalid -size type \x60" ++ last ++ "'")
    else refuse 1 ("invalid argument \x60" ++ value ++ "' to \x60-size'")

/-- The test for a mode. -/
def readMode (value : String) : Act EntryTest := do
  let (wanted, cs) : BitsWanted × List Char := match value.toList with
    | '-' :: cs => (.all, cs)
    | '/' :: cs => (.some, cs)
    | cs => (.exactly, cs)
  match modeChanges? (String.ofList cs) with
  | some changes =>
    let bits := applyChanges changes false 0 0
    if wanted = .some ∧ bits = 0 then return .always true
    return .mode wanted bits
  | none => refuse 1 ("invalid mode " ++ quoted value)

/-- An expression in which plus signs and question marks repeat, written without. -/
def withEscapedRepeats : (inBracket : Bool) → List Char → List Char
  | _, [] => []
  | false, '\\' :: c :: cs => '\\' :: c :: withEscapedRepeats false cs
  | false, '[' :: '^' :: ']' :: cs => '[' :: '^' :: ']' :: withEscapedRepeats true cs
  | false, '[' :: ']' :: cs => '[' :: ']' :: withEscapedRepeats true cs
  | false, '[' :: cs => '[' :: withEscapedRepeats true cs
  | true, ']' :: cs => ']' :: withEscapedRepeats false cs
  | false, '+' :: cs => '\\' :: '+' :: withEscapedRepeats false cs
  | false, '?' :: cs => '\\' :: '?' :: withEscapedRepeats false cs
  | b, c :: cs => c :: withEscapedRepeats b cs

/-- The test for a path as a whole. -/
def readRegex (r : Reading) (fold : Bool) (value : String) : Act EntryTest := do
  let cs := if r.plainRepeats then withEscapedRepeats false value.toList else value.toList
  match Regex.ofText ⟨r.extended, false⟩ cs with
  | .ok (x, _) => return .written fold x
  | .error e => refuse 1 ("failed to compile regular expression '" ++ value ++ "': " ++ e.message)

/-- The ways to write regular expressions, each with whether it is an extended one and whether it
lets plus signs and question marks repeat without a backslash. -/
def regexTypes : List (String × Bool × Bool) :=
  [("findutils-default", false, true), ("ed", false, false), ("emacs", false, true),
    ("gnu-awk", true, false), ("grep", false, false), ("posix-awk", true, false),
    ("awk", true, false), ("posix-basic", false, false), ("posix-egrep", true, false),
    ("egrep", true, false), ("posix-extended", true, false),
    ("posix-minimal-basic", false, false), ("sed", false, false)]

/-- Sets how regular expressions are written. -/
def readRegexType (r : Reading) (value : String) : Act Reading := do
  match regexTypes.lookup value with
  | some (extended, plain) => return { r with extended, plainRepeats := plain }
  | none =>
    refuse 1 ("Unknown regular expression type '" ++ value ++ "'; valid types are " ++
      ", ".intercalate (regexTypes.map fun t => "'" ++ t.1 ++ "'") ++ ".")

/-- Opens a file for output. -/
def openOutput (path : String) : Act Nat := do
  match ← openFile path .write with
  | .ok n => return n
  | .error e => refuse 1 (quoted path ++ ": " ++ e.text)

/-- Refuses a search path that depends on where one is. -/
def requireFixedPath : Act Unit := do
  let path := (← get).searchPath
  (path.splitOn ":").forM fun p => do
    let insecure (what : String) : Act Unit :=
      refuse 1 (what ++ " is included in the PATH environment variable, which is insecure in " ++
        "combination with the -execdir action of find.  Please remove that entry from $PATH")
    if p = "" ∨ p = "." then insecure "The current directory"
    else if p.toList.head? ≠ some '/' then insecure ("The relative path " ++ quoted p)

/-- Whether the braces stand somewhere in a word. -/
def hasBraces (w : String) : Bool := 1 < (w.splitOn "\x7b\x7d").length

/-- A command up to the word that ends it: the command, whether it is for many entries at once,
and the words that follow. -/
def commandWords (gathers : Bool) : List String → List String →
    Option (List String × Bool × List String)
  | _, [] => none
  | done, ";" :: rest => some (done.reverse, false, rest)
  | done, w :: rest =>
    if gathers ∧ w = "+" ∧ done.head?.any hasBraces then some (done.reverse, true, rest)
    else commandWords gathers (w :: done) rest

/-- Reads an action that runs a command. -/
def readCommand (r : Reading) (name : String) (args : List String) :
    Act (Reading × List String) := do
  let within := name = "-execdir" || name = "-okdir"
  let asks := name = "-ok" || name = "-okdir"
  if args.isEmpty then refuse 1 ("missing argument to \x60" ++ name ++ "'")
  match commandWords (!asks) [] args with
  | none => refuse 1 ("missing argument to \x60" ++ name ++ "'")
  | some (command, gathers, rest) =>
    if command.isEmpty then
      refuse 1 ("invalid argument \x60" ++ (args.headD "") ++ "' to \x60" ++ name ++ "'")
    if within then requireFixedPath
    if gathers then
      let last := command.getLastD ""
      if last ≠ "\x7b\x7d" then
        refuse 1 ("In '" ++ name ++ " ... \x7b\x7d +' the '\x7b\x7d' must appear by itself, but " ++
          "you specified '" ++ last ++ "'")
      let command := command.dropLast
      if command.any hasBraces then
        refuse 1 ("Only one instance of \x7b\x7d is supported with " ++ name ++ " ... +")
      let r := { r with gathered := r.gathered + 1 }
      return (r.addAction (.gather r.gathered command), rest)
    else return (r.addAction (.run command within asks), rest)

/-- The names of tests with one value. -/
def valuedNames : List String :=
  ["-name", "-iname", "-path", "-wholename", "-ipath", "-iwholename", "-lname", "-ilname",
    "-regex", "-iregex", "-regextype", "-type", "-xtype", "-size", "-perm", "-maxdepth",
    "-mindepth", "-links", "-uid", "-gid", "-user", "-group", "-inum", "-newer", "-anewer",
    "-cnewer", "-mtime", "-atime", "-ctime", "-mmin", "-amin", "-cmin", "-used", "-samefile",
    "-fstype", "-context", "-printf", "-fprint", "-fprint0", "-D"]

/-- A number that is no less than zero. -/
def readDepth (name value : String) : Act Nat := do
  match if value.toList.all Char.isDigit then value.toNat? else none with
  | some n => return n
  | none =>
    refuse 1 ("Expected a positive decimal integer argument to " ++ name ++ ", but got " ++
      quoted value)

/-- Makes sure that something is at a path. -/
def requireEntry (path : String) : Act Unit := do
  match ← resolve path with
  | .ok _ => pure ()
  | .error e =>
    if ¬ (← stands path) then refuse 1 (quoted path ++ ": " ++ e.text)

/-- The layout that a text writes. -/
def readLayout (value : String) : Act (List Char) := do
  let rec endsInside : List Char → Bool
    | [] => false
    | '\\' :: _ :: cs => endsInside cs
    | '%' :: cs =>
      match (writtenSpec cs).2, cs with
      | [], _ => true
      | _, _ :: rest => endsInside rest
      | _, [] => true
    | _ :: cs => endsInside cs
  if endsInside value.toList then refuse 1 "error: % at end of format string"
  return value.toList

/-- Reads a test, an option or an action with one value. -/
def readValued (r : Reading) (name value : String) : Act Reading := do
  match name with
  | "-name" => return r.addTest (.named false false (globOf false value))
  | "-iname" => return r.addTest (.named false true (globOf true value))
  | "-path" | "-wholename" => return r.addTest (.named true false (globOf false value))
  | "-ipath" | "-iwholename" => return r.addTest (.named true true (globOf true value))
  | "-lname" => return r.addTest (.linked false (globOf false value))
  | "-ilname" => return r.addTest (.linked true (globOf true value))
  | "-regex" => return r.addTest (← readRegex r false value)
  | "-iregex" => return r.addTest (← readRegex r true value)
  | "-regextype" => return (← readRegexType r value).addTest (.always true)
  | "-type" => return r.addTest (.kind false (← readKinds name value))
  | "-xtype" => return r.addTest (.kind true (← readKinds name value))
  | "-size" => return r.addTest (← readSize value)
  | "-perm" => return r.addTest (← readMode value)
  | "-maxdepth" =>
    let n ← readDepth name value
    return { r with most := some n }.addTest (.always true)
  | "-mindepth" =>
    let n ← readDepth name value
    return { r with least := n }.addTest (.always true)
  | "-links" => return r.addTest (.links (← readBound name value))
  | "-uid" | "-gid" => return r.addTest (.owner (← readBound name value))
  | "-user" | "-group" =>
    if value = "root" then return r.addTest (.owner ⟨.eq, 0⟩)
    else if value ≠ "" ∧ value.toList.all Char.isDigit then
      return r.addTest (.owner ⟨.eq, value.toNat?.getD 1⟩)
    else
      let what := if name = "-user" then "user" else "group"
      if name = "-user" then refuse 1 (quoted value ++ " is not the name of a known " ++ what)
      else refuse 1 (quoted value ++ " is not the name of an existing " ++ what)
  | "-inum" | "-used" =>
    let _ ← readBound name value
    return r.addTest (.always false)
  | "-newer" | "-anewer" | "-cnewer" =>
    requireEntry value
    return r.addTest (.always false)
  | "-mtime" | "-atime" | "-ctime" => return r.addTest (.age false (← readBound name value))
  | "-mmin" | "-amin" | "-cmin" => return r.addTest (.age true (← readBound name value))
  | "-samefile" =>
    requireEntry value
    return r.addTest (.sameAs value)
  | "-printf" => return r.addAction (.layout (← readLayout value) none)
  | "-fprint" => return r.addAction (.print "\n" (some (← openOutput value)))
  | "-fprint0" => return r.addAction (.print "\x00" (some (← openOutput value)))
  | _ => return r.addTest (.always false)

/-- Reads a test, an option or an action without a value; none if there is none of that name. -/
def readPlain (r : Reading) (name : String) : Option Reading :=
  let rest := { r with contentsFirst := true }
  match name with
  | "-empty" => some (r.addTest .empty)
  | "-readable" => some (r.addTest (.holds "-r"))
  | "-writable" => some (r.addTest (.holds "-w"))
  | "-executable" => some (r.addTest (.holds "-x"))
  | "-true" => some (r.addTest (.always true))
  | "-false" | "-nouser" | "-nogroup" => some (r.addTest (.always false))
  | "-depth" | "-d" => some (rest.addTest (.always true))
  | "-follow" => some ({ r with following := .always }.addTest (.always true))
  | "-mount" | "-xdev" | "-noleaf" | "-daystart" | "-warn" | "-nowarn" | "-ignore_readdir_race"
  | "-noignore_readdir_race" => some (r.addTest (.always true))
  | "-print" => some (r.addAction (.print "\n" none))
  | "-print0" => some (r.addAction (.print "\x00" none))
  | "-ls" => some (r.addAction (.layout "%i %k %M %n %u %g %s %p\\n".toList none))
  | "-delete" => some (rest.addAction .delete)
  | "-prune" => some (r.addAction .prune)
  | "-quit" => some (r.addAction .quit)
  | _ => none

/-- Reads the words of a condition. -/
def readWords : (fuel : Nat) → List String → Reading → Act Reading
  | 0, _, r => return r
  | _ + 1, [], r => return r
  | fuel + 1, a :: args, r => do
    let join (w : Word) : Act Reading := readWords fuel args { r with words := w :: r.words }
    match a with
    | "(" => join .openGroup
    | ")" => join .closeGroup
    | "!" | "-not" => join (.negation a)
    | "-a" | "-and" => join (.both a)
    | "-o" | "-or" => join (.either a)
    | "," => join .inTurn
    | "-help" | "--help" | "-version" | "--version" => stop 0
    | "-exec" | "-execdir" | "-ok" | "-okdir" =>
      let (r, rest) ← readCommand r a args
      readWords fuel rest r
    | "-fprintf" | "-fls" =>
      match a, args with
      | "-fprintf", path :: format :: rest =>
        readWords fuel rest (r.addAction (.layout (← readLayout format) (some (← openOutput path))))
      | "-fls", path :: rest =>
        readWords fuel rest (r.addAction (.print "\n" (some (← openOutput path))))
      | _, _ => refuse 1 ("missing argument to \x60" ++ a ++ "'")
    | _ =>
      if valuedNames.contains a then
        match args with
        | [] => refuse 1 ("missing argument to \x60" ++ a ++ "'")
        | value :: rest => readWords fuel rest (← readValued r a value)
      else
        match readPlain r a with
        | some r => readWords fuel args r
        | none =>
          if a.toList.head? = some '-' ∧ a.length ≠ 1 then
            refuse 1 ("unknown predicate \x60" ++ a ++ "'")
          else refuse 1 ("paths must precede expression: \x60" ++ a ++ "'")

/-- Reads the options in front of the paths. -/
def readFront : (fuel : Nat) → List String → Following → Act (List String × Following)
  | 0, args, f => return (args, f)
  | fuel + 1, args, f => do
    match args with
    | "-H" :: rest => readFront fuel rest .starts
    | "-L" :: rest => readFront fuel rest .always
    | "-P" :: rest => readFront fuel rest .never
    | "--" :: rest => return (rest, f)
    | "-D" :: [] => refuseUse 1 "Missing argument after the -D option."
    | "-D" :: _ :: rest => readFront fuel rest f
    | a :: rest =>
      match a.toList with
      | '-' :: 'O' :: level =>
        if level.isEmpty ∨ ¬ level.all Char.isDigit then
          refuse 1 "Please specify a decimal number immediately after -O"
        else readFront fuel rest f
      | _ => return (args, f)
    | [] => return (args, f)

/-- Whether a word begins the condition. -/
def beginsCondition (a : String) : Bool :=
  match a.toList with
  | '-' :: _ :: _ => true
  | ['('] | ['!'] => true
  | _ => false

/-- What some arguments ask for. -/
def readPlan (args : List String) : Act Plan := do
  let (args, following) ← readFront (args.length + 1) args .never
  let starts := args.takeWhile fun a => !beginsCondition a
  let r ← readWords (args.length + 1) (args.drop starts.length)
    ⟨[], following, 0, none, false, 0, false, true⟩
  match Condition.ofWords r.words.reverse with
  | .error e => refuse 1 e
  | .ok c =>
    return ⟨if starts.isEmpty then ["."] else starts, r.following, r.least, r.most,
      r.contentsFirst, c⟩

end TidyTree.Tool.Find
