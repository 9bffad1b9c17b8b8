/-
TidyTree.Shell.Builtin.Variables — the commands of the shell for
variables, parameters, options and aliases.

Every one gives its status.  An argument that cannot be used is an error
of the shell, which ends it if the command is a special one.
-/
import TidyTree.Shell.Expand

namespace TidyTree.Shell

/-! ## 1. Arguments -/

/-- The options in front of arguments, those in `valued` with a value, and the operands; an option
in neither list is an error. -/
def readOptions (plain valued : List Char) : (fuel : Nat) → List (Char × String) → List String →
    Act (List (Char × String) × List String)
  | 0, done, args => return (done.reverse, args)
  | _ + 1, done, [] => return (done.reverse, [])
  | fuel + 1, done, a :: args =>
    match a.toList with
    | '-' :: '-' :: [] => return (done.reverse, args)
    | '-' :: c :: cs =>
      if valued.contains c then
        match cs, args with
        | [], [] => fail ("No arg for -" ++ c.toString ++ " option")
        | [], value :: args => readOptions plain valued fuel ((c, value) :: done) args
        | _, _ => readOptions plain valued fuel ((c, String.ofList cs) :: done) args
      else if plain.contains c then
        let args := if cs.isEmpty then args else String.ofList ('-' :: cs) :: args
        readOptions plain valued fuel ((c, "") :: done) args
      else fail ("Illegal option -" ++ c.toString)
    | _ => return (done.reverse, a :: args)

/-- The letters of the options in front of arguments, and the operands. -/
def optionLetters (plain : List Char) (args : List String) : Act (List Char × List String) := do
  let size := args.foldl (fun n a => n + a.length) (args.length + 1)
  let (found, operands) ← readOptions plain [] size [] args
  return (found.map (·.1), operands)

/-- A text between quotes, from which the shell reads it back. -/
def singleQuoted (s : String) : String :=
  let rec pieces : (fuel : Nat) → List Char → String
    | 0, _ => ""
    | fuel + 1, cs =>
      let front := cs.takeWhile (· ≠ '\'')
      let rest := cs.drop front.length
      let quotes := rest.takeWhile (· = '\'')
      let piece := "'" ++ String.ofList front ++ "'"
      if quotes.isEmpty then piece
      else
        let piece := piece ++ "\"" ++ String.ofList quotes ++ "\""
        match rest.drop quotes.length with
        | [] => piece
        | more => piece ++ pieces fuel more
  pieces (s.length + 1) s.toList

/-- The name and the value in an argument. -/
def splitAssignment (s : String) : String × Option String :=
  let name := s.toList.takeWhile (· ≠ '=')
  match s.toList.drop name.length with
  | [] => (s, none)
  | _ :: value => (String.ofList name, some (String.ofList value))

/-- Refuses what is no name of a variable. -/
def requireName (name : String) : Act Unit := do
  if ¬ isName name then fail (name ++ ": bad variable name")

/-- Gives a variable a value if the name is one. -/
def assignChecked (name value : String) : Act Unit := do
  requireName name
  assign name value

/-! ## 2. Marks -/

/-- Prints variables in the order of their names; what stands before each of them is `front`. -/
def listVariables (front : String) (shown : Variable → Bool) : Act Unit := do
  let m ← get
  let found := (m.bindings.filter fun v => shown v.2).mergeSort fun a b => a.1 ≤ b.1
  found.forM fun (name, v) =>
    print (front ++ name ++ (match v.value with
      | some value => "=" ++ singleQuoted value
      | none => "") ++ "\n")

/-- Marks variables; without operands those that have the mark are listed. -/
def markVariables (command : String) (has : Variable → Bool) (mark : Variable → Variable)
    (args : List String) : Act Nat := do
  let (options, operands) ← optionLetters ['p'] args
  if options.contains 'p' ∨ operands.isEmpty then
    listVariables (command ++ " ") has
    return 0
  operands.forM fun a => do
    let (name, value) := splitAssignment a
    match value, (← get).lookup name with
    | some value, _ => assignChecked name value
    | none, some _ => pure ()
    | none, none =>
      requireName name
      forceVariable name ⟨none, false, false⟩
    match (← get).lookup name with
    | some v => forceVariable name (mark v)
    | none => pure ()
  return 0

/-- Passes variables on to programs. -/
def exportVariables (args : List String) : Act Nat :=
  markVariables "export" (·.exported) (fun v => { v with exported := true }) args

/-- Makes variables keep their values. -/
def protectVariables (args : List String) : Act Nat :=
  markVariables "readonly" (·.readOnly) (fun v => { v with readOnly := true }) args

/-- Makes a variable belong to what runs; `exported` says that programs get it. -/
def makeLocal (exported : Bool) (argument : String) : Act Unit := do
  let (name, value) := splitAssignment argument
  let old := (← get).lookup name
  match value, old with
  | some value, _ => assignChecked name value
  | none, none =>
    requireName name
    forceVariable name ⟨none, false, false⟩
  | none, some _ => pure ()
  if exported then
    match (← get).lookup name with
    | some v => forceVariable name { v with exported := true }
    | none => pure ()
  keep (.variable name old)

/-- Makes variables belong to the function that runs. -/
def declareLocal (args : List String) : Act Nat := do
  if (← get).functionDepth = 0 then fail "not in a function"
  args.forM fun a => do
    if a = "-" then keep (.options (← get).options) else makeLocal false a
  return 0

/-- Removes variables or functions. -/
def removeNames (args : List String) : Act Nat := do
  let (options, operands) ← optionLetters ['v', 'f'] args
  operands.forM fun name => do
    if options.getLast? = some 'f' then
      modify fun m => { m with functions := m.functions.filter fun f => f.1 ≠ name }
    else
      requireName name
      unset name
  return 0

/-! ## 3. Options and parameters -/

/-- The options by their names; a letter that no option has stands for none. -/
def optionNames : List (String × Char) :=
  [("errexit", 'e'), ("noglob", 'f'), ("ignoreeof", 'I'), ("interactive", 'i'), ("monitor", 'm'),
    ("noexec", 'n'), ("stdin", 's'), ("xtrace", 'x'), ("verbose", 'v'), ("vi", 'V'), ("emacs", 'E'),
    ("noclobber", 'C'), ("allexport", 'a'), ("notify", 'b'), ("nounset", 'u'), ("privileged", 'p'),
    ("nolog", '1'), ("debug", '2')]

/-- Sets an option or takes it back.  There is no terminal, and so nothing to control jobs from. -/
def switchOption (on : Bool) (letter : Char) : Act Unit := do
  if on ∧ letter = 'm' then warn "can't access tty; job control turned off"
  else
    modify fun m =>
      let others := m.options.filter (· ≠ letter)
      { m with options := if on then letter :: others else others }

/-- Sets the option of a letter or takes it back. -/
def setOption (on : Bool) (letter : Char) : Act Unit := do
  if letter.isDigit ∨ ¬ (optionNames.any fun o => o.2 = letter) then
    fail ("Illegal option -" ++ letter.toString)
  else switchOption on letter

/-- Sets the option of a name or takes it back. -/
def setNamedOption (on : Bool) (name : String) : Act Unit := do
  match optionNames.lookup name with
  | some letter => switchOption on letter
  | none => fail ("Illegal option -o " ++ name)

/-- Shows all options, as a table or as commands that set them. -/
def listOptions (asTable : Bool) : Act Unit := do
  if asTable then print "Current option settings\n"
  let m ← get
  optionNames.forM fun (name, letter) =>
    let on := m.has letter
    let blanks := String.ofList (List.replicate (16 - name.length) ' ')
    print (if asTable then name ++ blanks ++ (if on then "on" else "off") ++ "\n"
      else "set " ++ (if on then "-o " else "+o ") ++ name ++ "\n")

/-- Sets the options of a word, from behind its sign; gives the words that are left. -/
def setLetters (on : Bool) : List Char → List String → Act (List String)
  | [], rest => return rest
  | 'o' :: cs, rest => do
    match rest with
    | [] => listOptions on; setLetters on cs []
    | name :: rest => setNamedOption on name; setLetters on cs rest
  | c :: cs, rest => do
    setOption on c
    setLetters on cs rest

/-- Sets options; gives the words behind them, and whether they are the parameters even if there
are none. -/
def setOptions : (fuel : Nat) → List String → Act (List String × Bool)
  | 0, args => return (args, false)
  | _ + 1, [] => return ([], false)
  | fuel + 1, a :: rest => do
    match a.toList with
    | ['-'] =>
      modify fun m => { m with options := m.options.filter fun c => c ≠ 'x' ∧ c ≠ 'v' }
      return (rest, false)
    | ['-', '-'] => return (rest, true)
    | '-' :: cs => setOptions fuel (← setLetters true cs rest)
    | '+' :: cs => setOptions fuel (← setLetters false cs rest)
    | _ => return (a :: rest, false)

/-- Sets options and parameters; without arguments the variables are listed. -/
def setCommand (args : List String) : Act Nat := do
  if args.isEmpty then
    listVariables "" (·.value.isSome)
    return 0
  let (rest, always) ← setOptions (args.length + 1) args
  if always ∨ ¬ rest.isEmpty then
    modify fun m => { m with parameters := rest, nextOption := (1, 0) }
  return 0

/-- Leaves out the first parameters. -/
def shiftParameters (args : List String) : Act Nat := do
  let n ← match args with
    | [] => pure 1
    | a :: _ => count a
  let m ← get
  if m.parameters.length < n then fail "can't shift that many"
  set { m with parameters := m.parameters.drop n, nextOption := (1, 0) }
  return 0

/-! ## 4. Options of the script itself -/

/-- The option that comes next. -/
structure FoundOption where
  letter : Char
  value : Option String
  complaint : Option String
  /-- Where the option after it begins. -/
  place : Nat × Nat

/-- Finds the next option of `args`; `known` are the letters, those with a colon have a value. -/
def findOption (known : List Char) (args : List String) (place : Nat × Nat) :
    Nat × Option FoundOption :=
  let (index, offset) := place
  let current := ((args[index - 2]?).getD "").toList
  let within := index > 1 && offset > 0 && offset < current.length
  let begun : Option (Nat × Nat × List Char) :=
    if within then some (index, offset, current.drop offset)
    else
      match (args[index - 1]?).map String.toList with
      | some ['-', '-'] => none
      | some ('-' :: c :: cs) => some (index + 1, 1, c :: cs)
      | _ => none
  match begun with
  | some (index, offset, c :: cs) =>
    let quiet := known.head? = some ':'
    let rest := (if quiet then known.tail else known).dropWhile (· ≠ c)
    let next : Nat × Nat := (index, if cs.isEmpty then 0 else offset + 1)
    if rest.isEmpty ∨ c = ':' then
      (index, some ⟨'?', if quiet then some c.toString else none,
        if quiet then none else some ("Illegal option -" ++ c.toString), next⟩)
    else if rest[1]? = some ':' then
      match cs, args[index - 1]? with
      | [], none =>
        (index, some ⟨if quiet then ':' else '?', if quiet then some c.toString else none,
          if quiet then none else some ("No arg for -" ++ c.toString ++ " option"), (index, 0)⟩)
      | [], some value => (index + 1, some ⟨c, some value, none, (index + 1, 0)⟩)
      | _, _ => (index, some ⟨c, some (String.ofList cs), none, (index, 0)⟩)
    else (index, some ⟨c, some "", none, next⟩)
  | _ => (if (args[index - 1]?) = some "--" then index + 1 else index, none)

/-- Takes the next option of the parameters, or of the words behind the name. -/
def getOption (args : List String) : Act Nat := do
  let (_, args) ← optionLetters [] args
  match args with
  | known :: name :: words =>
    let m ← get
    let words := if words.isEmpty then m.parameters else words
    let place := if m.nextOption.1 > words.length + 1 then (1, 0) else m.nextOption
    let (index, found) := findOption known.toList words place
    match found with
    | some o =>
      match o.complaint with
      | some what => say (what ++ "\n")
      | none => pure ()
      match o.value with
      | some value => assign "OPTARG" value
      | none => unset "OPTARG"
    | none => pure ()
    assign "OPTIND" (toString index)
    assignChecked name (match found with
      | some o => o.letter.toString
      | none => "?")
    modify fun m => { m with nextOption := match found with
      | some o => o.place
      | none => (index, 0) }
    return if found.isSome then 0 else 1
  | _ => fail "Usage: getopts optstring var [arg...]"

/-! ## 5. Reading a line -/

/-- Puts the characters of a line together to at most `left + 1` fields.  `cut` is what the last
field is without the separators at its end, `blank` says that white space ended the field before. -/
def lineFields (separators : List Char) : (left : Nat) → (blank : Bool) →
    (cut : Option (List Char)) → (field : List Char) → List Quotable → List String
  | _, _, cut, field, [] =>
    let last := cut.getD field
    if last.isEmpty then [] else [String.ofList last.reverse]
  | 0, blank, cut, field, (c, quoted) :: cs =>
    let isSeparator := separators.contains c
    if quoted then lineFields separators 0 false cut (c :: field) cs
    else if isSeparator ∧ isFieldBlank c then
      lineFields separators 0 blank (cut <|> some field) (c :: field) cs
    else
      let cut := if isSeparator ∧ blank then cut else none
      lineFields separators 0 false cut (c :: field) cs
  | left + 1, blank, cut, field, (c, quoted) :: cs =>
    if quoted ∨ ¬ separators.contains c then
      lineFields separators (left + 1) false cut (c :: field) cs
    else if blank then
      lineFields separators (left + 1) (isFieldBlank c) cut [] cs
    else if isFieldBlank c ∧ field.isEmpty then lineFields separators (left + 1) false cut [] cs
    else if left = 0 then lineFields separators 0 (isFieldBlank c) (some field) (c :: field) cs
    else String.ofList field.reverse :: lineFields separators left (isFieldBlank c) cut [] cs

/-- Reads a line from the input up to its end; a backslash quotes the next character unless `raw`.
The answer says whether the line has an end. -/
def readLine (raw : Bool) : (limit : Nat) → (escaped : Bool) → List Quotable →
    Act (List Quotable × Bool)
  | 0, _, done => return (done.reverse, false)
  | limit + 1, escaped, done => do
    match ← readByte? 0 with
    | none => return (done.reverse, false)
    | some c =>
      if c = '\x00' then readLine raw limit escaped done
      else if escaped then
        readLine raw limit false (if c = '\n' then done else (c, true) :: done)
      else if c = '\\' ∧ raw = false then readLine raw limit true done
      else if c = '\n' then return (done.reverse, true)
      else readLine raw limit false ((c, false) :: done)

/-- Reads a line and gives its fields to variables. -/
def readVariables (args : List String) : Act Nat := do
  let size := args.foldl (fun n a => n + a.length) (args.length + 1)
  let (options, names) ← readOptions ['r'] ['p'] size [] args
  if names.isEmpty then fail "arg count"
  let (line, ended) ← readLine (options.any fun o => o.1 = 'r') roundLimit false []
  let found := lineFields (← get).separators names.length false none [] line
  (names.zip (found ++ List.replicate names.length "")).forM fun (name, value) =>
    assignChecked name value
  return if ended then 0 else 1

/-! ## 6. Aliases -/

/-- Shows an alias. -/
def aliasText (a : String × String) : String := a.1 ++ "=" ++ singleQuoted a.2

/-- Gives words other texts to stand for, or shows what they stand for. -/
def aliasCommand (args : List String) : Act Nat := do
  if args.isEmpty then
    (← get).aliases.forM fun a => print (aliasText a ++ "\n")
    return 0
  let missing ← args.filterM fun a => do
    match splitAssignment a with
    | (name, some value) =>
      modify fun m => { m with
        aliases := m.aliases.filter (fun a => a.1 ≠ name) ++ [(name, value)] }
      return false
    | (name, none) =>
      match (← get).aliases.lookup name with
      | some value => print (aliasText (name, value) ++ "\n"); return false
      | none => say ("alias: " ++ name ++ " not found\n"); return true
  return if missing.isEmpty then 0 else 1

/-- Takes back what words stand for. -/
def unaliasCommand (args : List String) : Act Nat := do
  let (options, names) ← optionLetters ['a'] args
  if options.contains 'a' then
    modify fun m => { m with aliases := [] }
    return 0
  let missing ← names.filterM fun name => do
    let m ← get
    if m.aliases.any fun a => a.1 = name then
      set { m with aliases := m.aliases.filter fun a => a.1 ≠ name }
      return false
    else
      say ("unalias: " ++ name ++ " not found\n")
      return true
  return if missing.isEmpty then 0 else 1

end TidyTree.Shell
