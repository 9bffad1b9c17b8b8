/-
TidyTree.Tool.Programs — tools that start programs.

They change what a program gets before it starts, look at how it ends,
or start one for many arguments.
-/
import TidyTree.Tool.Files

namespace TidyTree.Tool

open Shell

/-! ## 1. Starting -/

/-- The path along which programs are looked for among variables. -/
def pathIn (bindings : List (String × String)) : String :=
  (bindings.lookup "PATH").getD "/bin:/usr/bin"

/-- The program that a name stands for. -/
def imageOf (bindings : List (String × String)) (name : String) (args : List String) :
    Act (Except Errno Image) := do
  if name = "" then return .error .noEntry
  return findImage (← files) (pathIn bindings) name args

/-- Puts a program in the place of the tool; the status tells if that is not possible. -/
def replaceBy (perform : Performer) (bindings : List (String × String)) (name : String)
    (args : List String) (complaint : Errno → String) : Act Nat := do
  match ← imageOf bindings name args with
  | .ok i => become perform bindings i
  | .error e => refuse (if e = .noEntry then 127 else 126) (complaint e)

/-- Runs a program to its end. -/
def runProgram (perform : Performer) (name : String) (args : List String) :
    Act (Except Errno End) := do
  let bindings := (← get).inherited
  match ← imageOf bindings name args with
  | .ok i => return .ok (← spawn perform bindings i)
  | .error e => return .error e

/-! ## 2. Variables -/

/-- Sets a variable. -/
def setIn (bindings : List (String × String)) (name value : String) : List (String × String) :=
  if bindings.any (·.1 = name) then bindings.map fun v => if v.1 = name then (name, value) else v
  else bindings ++ [(name, value)]

/-- Why a text cannot be split into arguments. -/
inductive SplitFault where
  | openQuote
  | endingBackslash
  | badSequence (c : Char)
  | quotedEnd
  | badVariable (rest : String)

/-- What is wrong, in words. -/
def SplitFault.message : SplitFault → String
  | openQuote => "no terminating quote in -S string"
  | endingBackslash => "invalid backslash at end of string in -S"
  | badSequence c => "invalid sequence '\\" ++ c.toString ++ "' in -S"
  | quotedEnd => "'\\c' must not appear in double-quoted -S string"
  | badVariable rest => "only $\x7bVARNAME\x7d expansion is supported, error at: " ++ rest

/-- How a text is split: the quotes that are open, the word that is read, the last character first,
and the words that were read. -/
structure Splitting where
  quotes : Option Char
  word : Option (List Char)
  words : List String

/-- Adds characters to the word that is read. -/
def Splitting.add (s : Splitting) (cs : List Char) : Splitting :=
  { s with word := some (cs.reverse ++ s.word.getD []) }

/-- Ends the word that is read. -/
def Splitting.endWord (s : Splitting) : Splitting :=
  match s.word with
  | some w => { s with word := none, words := String.ofList w.reverse :: s.words }
  | none => s

/-- Splits a text into arguments. -/
def splitText (bindings : List (String × String)) : (fuel : Nat) → List Char → Splitting →
    Except SplitFault (List String)
  | 0, _, s => .ok s.words.reverse
  | _ + 1, [], s => if s.quotes.isSome then .error .openQuote else .ok s.endWord.words.reverse
  | fuel + 1, c :: cs, s =>
    let single := s.quotes = some '\''
    if c = '\'' ∧ s.quotes ≠ some '"' then
      splitText bindings fuel cs { s.add [] with quotes := if single then none else some '\'' }
    else if c = '"' ∧ ¬ single then
      splitText bindings fuel cs
        { s.add [] with quotes := if s.quotes.isSome then none else some '"' }
    else if c = '#' ∧ s.word.isNone ∧ s.quotes.isNone then .ok s.words.reverse
    else if CharClass.space.has c ∧ s.quotes.isNone then splitText bindings fuel cs s.endWord
    else if c = '\\' then
      match cs with
      | [] => .error .endingBackslash
      | d :: rest =>
        if single ∧ d ≠ '\\' ∧ d ≠ '\'' then splitText bindings fuel cs (s.add ['\\'])
        else if ['"', '#', '$', '\'', '\\'].contains d then
          splitText bindings fuel rest (s.add [d])
        else if d = '_' then
          splitText bindings fuel rest (if s.quotes.isSome then s.add [' '] else s.endWord)
        else if d = 'c' then
          if s.quotes.isSome then .error .quotedEnd else .ok s.endWord.words.reverse
        else
          match [('f', '\x0c'), ('n', '\n'), ('r', '\r'), ('t', '\t'), ('v', '\x0b')].lookup d with
          | some e => splitText bindings fuel rest (s.add [e])
          | none => .error (.badSequence d)
    else if c = '$' ∧ ¬ single then
      match cs with
      | '\x7b' :: more =>
        let name := more.takeWhile fun d => d.isAlphanum || d = '_'
        match more.drop name.length with
        | '\x7d' :: rest =>
          let value := (bindings.lookup (String.ofList name)).map String.toList
          splitText bindings fuel rest (match value with
            | some v => s.add v
            | none => s)
        | _ => .error (.badVariable (String.ofList (c :: cs)))
      | _ => .error (.badVariable (String.ofList (c :: cs)))
    else splitText bindings fuel cs (s.add [c])

/-- The arguments with texts to split put apart. -/
def splitArguments (bindings : List (String × String)) : (fuel : Nat) → List String →
    Except SplitFault (List String)
  | 0, args => .ok args
  | _ + 1, [] => .ok []
  | fuel + 1, a :: args =>
    let goOn (front : List String) (text : String) (rest : List String) :
        Except SplitFault (List String) := do
      let words ← splitText bindings (text.length + 1) text.toList ⟨none, none, []⟩
      return front ++ (← splitArguments bindings fuel (words ++ rest))
    let keep (front rest : List String) : Except SplitFault (List String) := do
      return front ++ (← splitArguments bindings fuel rest)
    match a.toList with
    | ['-'] | ['-', '-'] => .ok (a :: args)
    | '-' :: '-' :: cs =>
      if "split-string=".toList.isPrefixOf cs then
        goOn [] (String.ofList (cs.drop 13)) args
      else if a = "--split-string" then goOn [] (args.headD "") args.tail
      else if a = "--unset" ∨ a = "--chdir" then keep (a :: args.take 1) (args.drop 1)
      else keep [a] args
    | '-' :: cs =>
      let front := cs.takeWhile fun c => c ≠ 'S' && c ≠ 'u' && c ≠ 'C'
      let flags := if front.isEmpty then [] else [String.ofList ('-' :: front)]
      match cs.drop front.length with
      | 'S' :: [] => goOn flags (args.headD "") args.tail
      | 'S' :: text => goOn flags (String.ofList text) args
      | _ :: [] => keep (a :: args.take 1) (args.drop 1)
      | _ => keep [a] args
    | _ => .ok (a :: args)

/-- Changes to the directory at a path. -/
def enter (path : String) : Act (Except Errno Unit) := do
  match ← resolve path with
  | .ok (.directory place none _) =>
    setFiles { ← files with workingDirectory := place }
    return .ok ()
  | .ok (.directory _ (some e) _) => return .error e
  | .ok _ => return .error .notDirectory
  | .error e => return .error e

/-- Starts a program with other variables, or prints the variables. -/
def env (perform : Performer) (args : List String) : Act Nat := do
  let inherited := (← get).inherited
  let args ← match splitArguments inherited (args.length + 100) args with
    | .ok args => pure args
    | .error e => refuse 125 e.message
  let table := { ((OptionTable.letters "i0v" "uC").withFlags [("ignore-environment", "i"),
    ("null", "0"), ("debug", "v"), ("list-signal-handling", "list")]).withValues
    [("unset", "u"), ("chdir", "C")] with stops := true }
  let g ← given table 125 args
  let isBare := g.operands.head? = some "-"
  let operands := if isBare then g.operands.tail else g.operands
  let kept := if g.has "i" ∨ isBare then [] else inherited
  (g.values "u").forM fun name => do
    if name = "" ∨ name.toList.contains '=' then
      refuse 125 ("cannot unset " ++ quoted name ++ ": Invalid argument")
  let kept := kept.filter fun v => !(g.values "u").contains v.1
  let settings := operands.takeWhile fun a => a.toList.contains '='
  let bindings := settings.foldl (fun vs a =>
    let name := a.toList.takeWhile (· ≠ '=')
    setIn vs (String.ofList name) (String.ofList (a.toList.drop (name.length + 1)))) kept
  match operands.drop settings.length with
  | [] =>
    if g.has "C" then refuseUse 125 "must specify command with --chdir (-C)"
    let lineEnd := if g.has "0" then "\x00" else "\n"
    printAll (String.join (bindings.map fun v => v.1 ++ "=" ++ v.2 ++ lineEnd))
  | name :: rest =>
    if g.has "0" then refuseUse 125 "cannot specify --null (-0) with command"
    match g.value? "C" with
    | none => pure ()
    | some path =>
      match ← enter path with
      | .ok _ => pure ()
      | .error e => refuse 125 ("cannot change directory to " ++ quoted path ++ ": " ++ e.text)
    match ← imageOf bindings name rest with
    | .ok i => become perform bindings i
    | .error e =>
      complain (quoted name ++ ": " ++ e.text)
      if e = .noEntry ∧ name.toList.any CharClass.space.has then
        complain "use -[v]S to pass options in shebang lines"
      return if e = .noEntry then 127 else 126

/-! ## 3. Programs under other conditions -/

/-- Starts a program that does not heed the end of the session. -/
def nohup (perform : Performer) (args : List String) : Act Nat := do
  let g ← given { OptionTable.letters "" "" with stops := true } 125 args
  match g.operands with
  | [] => refuseUse 125 "missing operand"
  | name :: rest =>
    modify fun m => { m with traps := (1, "") :: m.traps.filter (·.1 ≠ 1) }
    replaceBy perform (← get).inherited name rest fun e =>
      "failed to run command " ++ quoted name ++ ": " ++ e.text

/-- Starts a program with another priority. -/
def nice (perform : Performer) (args : List String) : Act Nat := do
  let table := { (OptionTable.letters "" "n").withValues [("adjustment", "n")] with stops := true }
  let modern (a : String) : List String :=
    match a.toList with
    | '-' :: '-' :: c :: cs =>
      if (c :: cs).all Char.isDigit then ["-n", String.ofList ('-' :: c :: cs)] else [a]
    | '-' :: '+' :: c :: cs =>
      if (c :: cs).all Char.isDigit then ["-n", String.ofList (c :: cs)] else [a]
    | '-' :: c :: cs =>
      if (c :: cs).all Char.isDigit then ["-n", String.ofList (c :: cs)] else [a]
    | _ => [a]
  let g ← given table 125 ((args.take 1).flatMap modern ++ args.drop 1)
  match g.value? "n" with
  | some v =>
    let digits := (v.toList.dropWhile fun c => c = '+' || c = '-')
    if digits.isEmpty ∨ ¬ digits.all Char.isDigit then
      refuse 125 ("invalid adjustment " ++ quoted v)
  | none => pure ()
  match g.operands with
  | [] =>
    if g.has "n" then refuseUse 125 "a command must be given with an adjustment"
    printAll "0\n"
  | name :: rest =>
    replaceBy perform (← get).inherited name rest fun e => quoted name ++ ": " ++ e.text

/-- Starts a program in a session of its own. -/
def setsid (perform : Performer) (args : List String) : Act Nat := do
  let g ← given { (OptionTable.letters "cfwhV" "").withFlags [("ctty", "c"), ("fork", "f"),
    ("wait", "w")] with stops := true } 1 args
  if g.has "h" ∨ g.has "V" then return 0
  match g.operands with
  | [] => refuseUse 1 "no command specified"
  | name :: rest =>
    if g.has "c" then
      refuse 1 "failed to set the controlling terminal: Inappropriate ioctl for device"
    if g.has "f" then
      match ← runProgram perform name rest with
      | .ok _ => return 0
      | .error e =>
        complain ("failed to execute " ++ name ++ ": " ++ e.text)
        return 0
    match ← imageOf (← get).inherited name rest with
    | .ok i => become perform (← get).inherited i
    | .error e =>
      complain ("failed to execute " ++ name ++ ": " ++ e.text)
      return if e = .noEntry then 127 else 126

/-- Starts a program with other ways to gather output, which cannot be told apart here. -/
def stdbuf (perform : Performer) (args : List String) : Act Nat := do
  let g ← given { (OptionTable.letters "" "ioe").withValues [("input", "i"), ("output", "o"),
    ("error", "e")] with stops := true } 125 args
  g.options.forM fun (_, mode) => do
    if mode ≠ "L" ∧ (amount? mode).isNone then refuse 125 ("invalid mode " ++ quoted mode)
  match g.operands with
  | [] => refuseUse 125 "missing operand"
  | name :: rest =>
    if g.options.isEmpty then refuseUse 125 "you must specify a buffering mode option"
    replaceBy perform (← get).inherited name rest fun e =>
      "failed to run command " ++ quoted name ++ ": " ++ e.text

/-- Starts a program that may run only for some time. -/
def timeout (perform : Performer) (args : List String) : Act Nat := do
  let table := { ((OptionTable.letters "v" "ks").withFlags [("preserve-status", "preserve"),
    ("foreground", "foreground"), ("verbose", "v")]).withValues [("kill-after", "k"),
    ("signal", "s")] with stops := true }
  let g ← given table 125 args
  match g.operands with
  | [] | [_] =>
    say ("Try '" ++ (← get).name ++ " --help' for more information.\n")
    stop 125
  | time :: name :: rest =>
    match duration? time with
    | none => refuseUse 125 ("invalid time interval " ++ quoted time)
    | some limit =>
      let signal ← match g.value? "s" with
        | none => pure 15
        | some name =>
          let short := if "SIG".isPrefixOf name then String.ofList (name.toList.drop 3) else name
          match signal? 0 short with
          | some n => pure n
          | none => refuseUse 125 (quoted name ++ ": invalid signal")
      let start := (← get).world.clock
      match ← runProgram perform name rest with
      | .error e =>
        complain ("failed to run command " ++ quoted name ++ ": " ++ e.text)
        return if e = .noEntry then 127 else 126
      | .ok e =>
        let isLate := limit ≠ 0 && start + limit < (← get).world.clock
        if isLate then
          modify fun m => { m with world := { m.world with clock := start + limit } }
          if signal = 9 ∧ ¬ g.has "foreground" then throw (.killed ⟨9⟩)
          return if g.has "preserve" ∨ signal = 9 then 128 + signal else 124
        else
          match e with
          | .killed s => throw (.killed s)
          | .exited n => return n

/-- Shows where programs are found. -/
def which (args : List String) : Act Nat := do
  let g ← match { OptionTable.letters "as" "" with stops := true : OptionTable }.read args with
    | .ok g => pure g
    | .error e =>
      let letter := ((e.toList.reverse.drop 1).head?.map Char.toString).getD ""
      say ("Illegal option -" ++ letter ++ "\n")
      print "Usage: /usr/bin/which [-as] args\n"
      stop 2
  let fs ← files
  let path := (← get).searchPath
  let missing ← g.operands.filterM fun name => do
    let places := if name.toList.contains '/' then [name] else candidates path name
    let places := places.filter fun p => (runnableAt fs (Text.widen p)).isNone
    if places.isEmpty then return true
    else
      if ¬ g.has "s" then
        print (String.join ((if g.has "a" then places else places.take 1).map (· ++ "\n")))
      return false
  return if missing.isEmpty ∧ ¬ g.operands.isEmpty then 0 else 1

/-! ## 4. Programs for many arguments -/

/-- A fault in the items that are read. -/
inductive ItemFault where
  | openQuote (double : Bool)

/-- What is wrong, in words. -/
def ItemFault.message : ItemFault → String
  | openQuote double =>
    "unmatched " ++ (if double then "double" else "single") ++ " quote; by default quotes are " ++
      "special to xargs unless you use the -0 option"

/-- Splits a text into items, each with whether a line ends right behind it, up to a fault;
`byLine` says that blanks do not end an item. -/
def itemsFrom (byLine : Bool) : (fuel : Nat) → (quote : Option Char) → Option (List Char) →
    List Char → List (String × Bool) × Option ItemFault
  | 0, _, _, _ => ([], none)
  | _ + 1, quote, word, [] =>
    match quote, word with
    | some q, _ => ([], some (.openQuote (q = '"')))
    | none, some w => ([(String.ofList w.reverse, true)], none)
    | none, none => ([], none)
  | fuel + 1, quote, word, c :: cs =>
    let finish (lineEnd : Bool) : List (String × Bool) × Option ItemFault :=
      match word with
      | some w =>
        let (items, fault) := itemsFrom byLine fuel none none cs
        ((String.ofList w.reverse, lineEnd) :: items, fault)
      | none => itemsFrom byLine fuel none none cs
    match quote with
    | some q =>
      if c = q then itemsFrom byLine fuel none word cs
      else if c = '\n' then ([], some (.openQuote (q = '"')))
      else itemsFrom byLine fuel quote (some (c :: word.getD [])) cs
    | none =>
      if c = '\n' then finish true
      else if CharClass.space.has c ∧ word.isNone then itemsFrom byLine fuel none none cs
      else if CharClass.blank.has c ∧ ¬ byLine then finish false
      else if c = '\'' ∨ c = '"' then itemsFrom byLine fuel (some c) (some (word.getD [])) cs
      else if c = '\\' then
        match cs with
        | [] => itemsFrom byLine fuel none word []
        | d :: rest => itemsFrom byLine fuel none (some (d :: word.getD [])) rest
      else itemsFrom byLine fuel none (some (c :: word.getD [])) cs

/-- How items are handed to a program. -/
structure Handing where
  /-- At most so many at a time. -/
  most : Option Nat
  /-- At most so many lines at a time. -/
  lines : Option Nat
  /-- What is replaced by an item. -/
  replaced : Option String
  told : Bool

/-- What decides how many items are handed over at once. -/
inductive HandingWay where
  | arguments
  | lines
  | replacing
deriving DecidableEq

/-- The way that an option asks for, with the option's name in full. -/
def handingWay? (key : String) : Option (HandingWay × String) :=
  if key = "n" then some (.arguments, "--max-args/-n")
  else if key = "L" then some (.lines, "-L")
  else if key = "l" then some (.lines, "--max-lines/-l")
  else if key = "I" ∨ key = "i" then some (.replacing, "--replace/-I/-i")
  else none

/-- The name of the option that asked for a way. -/
def HandingWay.optionName : HandingWay → String
  | arguments => "--max-args"
  | lines => "--max-lines"
  | replacing => "--replace"

/-- The way that the last of some options asks for; those before it that ask for another one are
warned of.  Handing over single items while replacing asks for nothing else. -/
def wayOf (most : Option Nat) : List (String × String) → Option HandingWay → Act (Option HandingWay)
  | [], way => return way
  | (key, _) :: rest, way =>
    match handingWay? key, way with
    | none, _ => wayOf most rest way
    | some (new, _), none => wayOf most rest (some new)
    | some (new, name), some old => do
      if new = old then wayOf most rest way
      else if new = .arguments ∧ old = .replacing ∧ most = some 1 then wayOf most rest way
      else
        complain ("warning: options " ++ old.optionName ++ " and " ++ name ++
          " are mutually exclusive, ignoring previous " ++ old.optionName ++ " value")
        wayOf most rest (some new)

/-- How many characters the arguments of a program may have together. -/
def handingLimit : Nat := 131072 - 2048

/-- Puts items together that are handed over at once. -/
def Handing.groups (h : Handing) :
    List (String × Bool) → (done : List String) → (lines size : Nat) → List (List String)
  | [], done, _, _ => if done.isEmpty then [] else [done.reverse]
  | (item, lineEnd) :: rest, done, lines, size =>
    let full := (h.most.any (· ≤ done.length)) ||
      (handingLimit < size + item.length + 1 && !done.isEmpty)
    if full then done.reverse :: h.groups rest [item] (if lineEnd then 1 else 0) (item.length + 1)
    else
      let lines := if lineEnd then lines + 1 else lines
      if h.lines.any (· ≤ lines) then (item :: done).reverse :: h.groups rest [] 0 0
      else h.groups rest (item :: done) lines (size + item.length + 1)

/-- A text with another one in all places of a third. -/
def withReplaced (text old new : String) : String :=
  if old = "" then text else new.intercalate (text.splitOn old)

/-- Runs a command for each group of items; gives the status. -/
def runGroups (perform : Performer) (told : Bool) : List (List String) → (status : Nat) → Act Nat
  | [], status => return status
  | [] :: rest, status => runGroups perform told rest status
  | (name :: args) :: rest, status => do
    if told then say (" ".intercalate ((name :: args).map shown) ++ "\n")
    match ← runProgram perform name args with
    | .error e =>
      complain (name ++ ": " ++ e.text)
      return if e = .noEntry then 127 else 126
    | .ok (.killed s) =>
      complain (name ++ ": terminated by signal " ++ toString s.number)
      return 125
    | .ok (.exited 255) =>
      complain (name ++ ": exited with status 255; aborting")
      return 124
    | .ok (.exited n) => runGroups perform told rest (if n = 0 then status else 123)

/-- Starts a program for the items that the input holds. -/
def xargs (perform : Performer) (args : List String) : Act Nat := do
  let table := { (((OptionTable.letters "0oprtx" "EILPadns").withFlags [("null", "0"),
    ("no-run-if-empty", "r"), ("verbose", "t"), ("exit", "x"), ("interactive", "p"),
    ("open-tty", "o")]).withValues [("arg-file", "a"), ("delimiter", "d"), ("max-args", "n"),
    ("max-procs", "P"), ("max-chars", "s")]).withLoose [("replace", "i"), ("max-lines", "l"),
    ("eof", "e")] with stops := true, loose := "eil" }
  let g ← given table 1 args
  let number (key : String) : Act (Option Nat) := do
    match g.value? key with
    | none => return none
    | some v =>
      match v.toNat? with
      | some 0 => refuseUse 1 ("value " ++ v ++ " for -" ++ key ++ " option should be >= 1")
      | some n => return some n
      | none => refuseUse 1 ("invalid number \"" ++ v ++ "\" for -" ++ key ++ " option")
  let most ← number "n"
  let lines ← number "L"
  let _ ← number "s"
  match g.value? "P" with
  | some v => if v.toNat?.isNone then refuseUse 1 ("invalid number \"" ++ v ++ "\" for -P option")
  | none => pure ()
  let way ← wayOf most g.options none
  let most := if way = some .arguments then most else none
  let lines := if way ≠ some .lines then none
    else if g.last? ["L", "l"] = some "L" then lines
    else some (((g.value? "l").bind String.toNat?).getD 1)
  let replaced := if way ≠ some .replacing then none
    else ((g.last? ["I", "i"]).bind g.value?).map fun v => if v = "" then "\x7b\x7d" else v
  let separator? : Option Char ← match if g.has "0" then some "\\0" else g.value? "d" with
    | none => pure none
    | some v =>
      match (toolUnescape false (v.length + 1) v.toList).1 with
      | [c] => pure (some c)
      | [] => pure (some '\x00')
      | _ =>
        refuse 1 ("Invalid input delimiter specification " ++ v ++ ": the delimiter must be " ++
          "either a single character or an escape sequence starting with \\.")
  let text ← match g.value? "a" with
    | none => standardInput
    | some path =>
      match ← inputText path with
      | .ok text => pure text
      | .error e =>
        if e = .isDirectory then pure ""
        else refuse 1 ("Cannot open input file " ++ quoted path ++ ": " ++ e.text)
  let (items, fault) : List (String × Bool) × Option ItemFault := match separator? with
    | some c =>
      let parts := text.splitOn c.toString
      let parts := if parts.getLast? = some "" then parts.dropLast else parts
      (parts.map fun p => (p, true), none)
    | none => itemsFrom replaced.isSome (text.length + 1) none none text.toList
  let items := match g.last? ["E", "e"] with
    | some key =>
      let ending := (g.value? key).getD ""
      if ending = "" then items else items.takeWhile fun i => i.1 ≠ ending
    | none => items
  let command := if g.operands.isEmpty then ["echo"] else g.operands
  let h : Handing := ⟨most, lines, replaced, g.has "t"⟩
  let groups := match h.replaced with
    | some old => items.map fun i => command.map fun a => withReplaced a old i.1
    | none =>
      if items.isEmpty then if g.has "r" ∨ fault.isSome then [] else [command]
      else (h.groups items [] 0 0).map fun is => command ++ is
  let n ← addOpening ⟨.null, 0, true, false, false⟩
  setDescriptor 0 (some n)
  if (g.has "p" ∨ g.has "o") ∧ ¬ groups.isEmpty then
    refuse (if g.has "p" then 1 else 125)
      "failed to open /dev/tty for reading: No such device or address"
  let status ← runGroups perform h.told groups 0
  match fault with
  | some e => refuse (if status = 0 then 1 else status) e.message
  | none => return status

end TidyTree.Tool
