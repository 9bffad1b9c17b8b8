/-
TidyTree.Shell.Builtin.Control — the commands of the shell that decide
what is carried out next, and those that tell what a name stands for.

Leaving a loop, a function or the shell is an exception of the action.
-/
import TidyTree.Shell.Builtin.Places
import TidyTree.Shell.Builtin.Printing
import TidyTree.Shell.Builtin.Processes
import TidyTree.Shell.Builtin.Test
import TidyTree.Shell.Process
import TidyTree.Shell.Redirect

namespace TidyTree.Shell

/-! ## 1. Leaving -/

/-- Leaves loops, or begins their next round. -/
def leaveLoops (again : Bool) (args : List String) : Act Nat := do
  let n ← match args with
    | [] => pure 1
    | a :: _ => do
      let n ← count a
      if n = 0 then fail ("Illegal number: " ++ a) else pure n
  let levels := min n (← get).loopDepth
  if levels = 0 then return 0
  setStatus 0
  throw (.loops again levels)

/-- Leaves the function or the file that is carried out. -/
def returnCommand (args : List String) : Act Nat := do
  match args with
  | [] => pure ()
  | a :: _ => setStatus (← count a)
  throw .returning

/-- Leaves the shell. -/
def exitCommand (args : List String) : Act Nat := do
  match args with
  | [] => pure ()
  | a :: _ =>
    let n ← count a
    modify fun m => { m with status := n, settled := some n }
  throw .exiting

/-! ## 2. Other texts -/

/-- Carries out its words as commands. -/
def evalCommand (perform : Performer) (tested : Bool) (args : List String) : Act Nat := do
  perform (.source (" ".intercalate args) tested false)
  return (← get).status

/-- The path of a file with commands: a name without a slash is looked up along the search path. -/
def sourcePath (name : String) : Act String := do
  if name.toList.contains '/' then return name
  let m ← get
  let isThere (p : String) : Bool := m.world.files.isFile (Text.widen p)
  match (candidates m.searchPath name).find? isThere with
  | some p => return p
  | none => fail (name ++ ": not found")

/-- Carries out the commands of a file. -/
def sourceCommand (perform : Performer) (args : List String) : Act Nat := do
  let (_, args) ← optionLetters [] args
  match args with
  | [] => return 0
  | name :: _ =>
    let path ← sourcePath name
    match ← openFile path .read with
    | .error e => fail (openComplaint false path e)
    | .ok n =>
      let m ← get
      let text := match m.world.openings[n]? with
        | some o => ((m.world.remaining o).toOption.map Text.ofBytes).getD ""
        | none => ""
      let speaker := m.speaker
      set { m with speaker := some path }
      match ← attempt (perform (.source text false false)) with
      | .ok _ => pure ()
      | .error .returning => pure ()
      | .error e => throw e
      modify fun m => { m with speaker }
      return (← get).status

/-! ## 3. Names -/

/-- The special commands of the shell: their errors end it, and what is assigned before them
stays. -/
def specialNames : List String :=
  [".", ":", "break", "continue", "eval", "exec", "exit", "export", "local", "readonly", "return",
    "set", "shift", "times", "trap", "unset"]

/-- The other commands that are part of the shell. -/
def regularNames : List String :=
  ["[", "alias", "bg", "cd", "chdir", "command", "echo", "false", "fg", "getopts", "hash", "jobs",
    "kill", "printf", "pwd", "read", "test", "true", "type", "ulimit", "umask", "unalias", "wait"]

/-- The commands whose words may be assignments. -/
def assigningNames : List String := ["alias", "export", "local", "readonly"]

/-- What the name of a command stands for. -/
inductive Meaning where
  | builtin (special : Bool)
  | function (f : Function)
  | program
deriving Inhabited

/-- What a name stands for; functions may be left out. -/
def Machine.meaning (m : Machine) (functions : Bool) (name : String) : Meaning :=
  if name.toList.contains '/' then .program
  else if specialNames.contains name then .builtin true
  else
    match if functions then m.functions.lookup name else none with
    | some f => .function f
    | none => if regularNames.contains name then .builtin false else .program

/-- Tells what a name stands for; gives the status. -/
def describe (searchPath : Option String) (verbose : Bool) (name : String) : Act Nat := do
  let m ← get
  let tell (long short : String) : Act Nat := do
    print ((if verbose then name ++ long else short) ++ "\n")
    return 0
  let missing : Act Nat := do
    if verbose then print (name ++ ": not found\n")
    return 127
  if keywords.contains name then tell " is a shell keyword" name
  else
    match m.aliases.lookup name with
    | some value => tell (" is an alias for " ++ value) ("alias " ++ aliasText (name, value))
    | none =>
      match m.meaning true name with
      | .builtin special =>
        tell (" is a " ++ (if special then "special " else "") ++ "shell builtin") name
      | .function _ => tell " is a shell function" name
      | .program =>
        if name.toList.contains '/' then
          match ← resolve name with
          | .ok _ => tell (" is " ++ name) name
          | .error _ => missing
        else
          match if searchPath.isNone then m.found.lookup name else none with
          | some path => tell (" is a tracked alias for " ++ path) path
          | none =>
            match programPath m.world.files (searchPath.getD m.searchPath) name with
            | .ok path =>
              if searchPath.isNone then rememberProgram name path
              tell (" is " ++ path) path
            | .error _ => missing

/-- Tells what names stand for. -/
def typeCommand (args : List String) : Act Nat := do
  let statuses ← args.mapM (describe none true)
  return statuses.foldl (· ||| ·) 0

/-- Tells what a name stands for, if that is asked for. -/
def commandCommand (args : List String) : Act Nat := do
  let (options, operands) ← optionLetters ['p', 'v', 'V'] args
  match operands with
  | name :: _ =>
    if options.contains 'V' ∨ options.contains 'v' then
      describe (if options.contains 'p' then some defaultSearchPath else none)
        (options.contains 'V') name
    else return 0
  | [] => return 0

/-- Looks programs up and remembers where they are, or shows what is remembered. -/
def hashCommand (args : List String) : Act Nat := do
  let (options, operands) ← optionLetters ['r'] args
  if options.contains 'r' then
    modify fun m => { m with found := [] }
    return 0
  if operands.isEmpty then
    let inTable := (← get).found.reverse.mergeSort fun a b => slot 31 a.1 ≤ slot 31 b.1
    inTable.forM fun p => print (p.2 ++ "\n")
    return 0
  let missing ← operands.filterM fun name => do
    let m ← get
    match m.meaning true name with
    | .program =>
      match programPath m.world.files m.searchPath name with
      | .ok path => rememberProgram name path; return false
      | .error e => warn (name ++ ": " ++ startComplaint e); return true
    | _ => return false
  return if missing.isEmpty then 0 else 1

/-! ## 4. All commands -/

/-- Carries out a command that is part of the shell, except one that starts a program. -/
def builtin (perform : Performer) (tested : Bool) (name : String) (args : List String) : Act Nat :=
  match name with
  | ":" | "true" => return 0
  | "false" => return 1
  | "." => sourceCommand perform args
  | "[" | "test" => TidyTree.Shell.test name args
  | "alias" => aliasCommand args
  | "break" => leaveLoops false args
  | "cd" | "chdir" => changeDirectory args
  | "command" => commandCommand args
  | "continue" => leaveLoops true args
  | "echo" => echo args
  | "eval" => evalCommand perform tested args
  | "exit" => exitCommand args
  | "export" => exportVariables args
  | "getopts" => getOption args
  | "hash" => hashCommand args
  | "jobs" => jobsCommand args
  | "kill" => killCommand args
  | "local" => declareLocal args
  | "printf" => printf args
  | "pwd" => printDirectory args
  | "read" => readVariables args
  | "readonly" => protectVariables args
  | "return" => returnCommand args
  | "set" => setCommand args
  | "shift" => shiftParameters args
  | "times" => do
    print "0m0.000000s 0m0.000000s\n0m0.000000s 0m0.000000s\n"
    return 0
  | "trap" => trapCommand args
  | "type" => typeCommand args
  | "ulimit" => do
    print "unlimited\n"
    return 0
  | "umask" => maskCommand args
  | "unalias" => unaliasCommand args
  | "unset" => removeNames args
  | "wait" => waitCommand args
  | "fg" | "bg" => fail "No current job"
  | _ => return 0

end TidyTree.Shell
