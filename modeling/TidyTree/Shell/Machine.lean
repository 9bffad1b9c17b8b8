/-
TidyTree.Shell.Machine — the state of one process, and acting on it.

A process runs a script or a tool.  Its state holds what is its own,
such as variables and descriptors, and the world that it shares.  An
action changes the state and gives a value, or leaves what is going on
for one of the reasons in `Leave`.  All text is kept byte by byte.
-/
import TidyTree.Shell.Channel
import TidyTree.Shell.Grammar

namespace TidyTree.Shell

/-! ## 1. State -/

/-- A variable; it may be declared without having a value. -/
structure Variable where
  value : Option String
  exported : Bool
  readOnly : Bool

/-- A command with a name, and the line at which it begins. -/
structure Function where
  body : Script
  line : Nat

/-- What comes back at the end of a command or a function. -/
inductive Kept where
  | variable (name : String) (old : Option Variable)
  | options (letters : List Char)

/-- How a process ended. -/
inductive End where
  | exited (status : Nat)
  | killed (signal : Signal)
deriving DecidableEq

/-- A process that runs beside the shell. -/
structure Background where
  number : Nat
  /-- The place at which it is listed. -/
  place : Nat
  ended : End
  /-- When it ends. -/
  ending : Nat
  /-- Whether its end was waited for. -/
  awaited : Bool

/-- The state of a process. -/
structure Machine where
  world : World
  /-- The number of the process. -/
  identity : Nat
  /-- The number that the script has for itself; the processes that are parts of it share it. -/
  number : Nat
  /-- The numbers of the processes that this one was started from, the nearest first. -/
  ancestors : List Nat
  /-- The name under which the process was started. -/
  name : String
  parameters : List String
  bindings : List (String × Variable)
  /-- What was before the commands and functions that run made it their own. -/
  locals : List (List Kept)
  functions : List (String × Function)
  aliases : List (String × String)
  /-- The letters of the options that are set. -/
  options : List Char
  status : Nat
  /-- The status of the last substituted command, while a command is carried out. -/
  substituted : Nat
  /-- The line of the command that is carried out. -/
  line : Nat
  /-- The line up to which the script was read. -/
  lineRead : Nat
  /-- The line at which the function begins that runs, or zero. -/
  functionLine : Nat
  /-- The command of the shell that runs and may complain. -/
  speaker : Option String
  /-- Whether something that it printed could not be written. -/
  unwritten : Bool
  /-- The descriptors with the numbers of their openings. -/
  descriptors : List (Nat × Nat)
  /-- What to carry out when a signal comes, or at the end, for which the number is zero. -/
  traps : List (Nat × String)
  loopDepth : Nat
  functionDepth : Nat
  /-- The here-documents of the scripts that were read. -/
  documents : List (Nat × List Part)
  nextDocument : Nat
  /-- Which argument has the next option, and how many of its characters were read. -/
  nextOption : Nat × Nat
  lastBackground : Option Nat
  /-- The processes that were started beside the shell, the last one first. -/
  jobs : List Background
  /-- The programs that were looked for along the search path and the paths at which they were
  found, the last one first. -/
  found : List (String × String)
  /-- The status with which the process ends, once that is settled. -/
  settled : Option Nat
  /-- The working directory as the shell came there. -/
  directory : String
  /-- The bits that new files do not get. -/
  mask : Nat

/-- Why something is left before its end. -/
inductive Leave where
  /-- Some loops are left, or their next round begins. -/
  | loops (again : Bool) (levels : Nat)
  | returning
  | exiting
  /-- The shell has complained and ends, unless the command is one that may fail. -/
  | failing
  | killed (signal : Signal)
  /-- What the fuel allows is used up. -/
  | exhausted
deriving DecidableEq

/-- An action of a process. -/
abbrev Act := EStateM Leave Machine

/-- What a process is asked to do.  `tested` says that a failure is looked at and so does not end
the shell, `last` that nothing follows. -/
inductive Job where
  | script (s : Script) (tested last : Bool)
  /-- A script as a process of its own, up to its end. -/
  | part (s : Script) (tested : Bool)
  /-- The commands of a text. -/
  | source (text : String) (tested last : Bool)
  /-- A tool that was started. -/
  | tool (name : String) (arguments : List String)

/-- What carries out jobs of a smaller depth. -/
abbrev Performer := Job → Act Unit

/-! ## 2. Descriptors -/

/-- The opening that a descriptor leads to. -/
def Machine.opening? (m : Machine) (descriptor : Nat) : Option Nat :=
  m.descriptors.lookup descriptor

/-- Makes a descriptor lead to an opening, or to none. -/
def setDescriptor (descriptor : Nat) (o : Option Nat) : Act Unit :=
  modify fun m =>
    let others := m.descriptors.filter fun d => d.1 ≠ descriptor
    { m with descriptors := match o with
      | some n => (descriptor, n) :: others
      | none => others }

/-- Opens a channel; gives the number of the opening. -/
def addOpening (o : Opening) : Act Nat :=
  modifyGet fun m => let (world, n) := m.world.add o; (n, { m with world })

/-- Writes to a descriptor; gives the error if that is not possible. -/
def tryWrite (descriptor : Nat) (text : String) : Act (Option Errno) := do
  let m ← get
  match m.opening? descriptor with
  | none => return if text = "" then none else some ⟨9⟩
  | some n =>
    match m.world.write n text with
    | .ok world => set { m with world }; return none
    | .error e => return some e

/-- Writes to a descriptor as far as that is possible. -/
def put (descriptor : Nat) (text : String) : Act Unit := do let _ ← tryWrite descriptor text

/-- Prints a text; it is remembered if that is not possible. -/
def print (text : String) : Act Unit := do
  if (← tryWrite 1 text).isSome then modify fun m => { m with unwritten := true }

/-- All that is left to read from a descriptor. -/
def readRest (descriptor : Nat) : Act (Except Errno String) := do
  let m ← get
  match m.opening? descriptor with
  | none => return .error ⟨9⟩
  | some n =>
    match m.world.openings[n]? with
    | none => return .error ⟨9⟩
    | some o =>
      match m.world.remaining o with
      | .error e => return .error e
      | .ok b =>
        set { m with world := m.world.advance n b.size }
        return .ok (Text.ofBytes b)

/-- What is left to read from a descriptor, without going on. -/
def lookAhead (descriptor : Nat) : Act String := do
  let m ← get
  match (m.opening? descriptor).bind fun n => m.world.openings[n]? with
  | none => return ""
  | some o => return ((m.world.remaining o).toOption.map Text.ofBytes).getD ""

/-- Goes back by some bytes that were read. -/
def goBack (descriptor bytes : Nat) : Act Unit := do
  let m ← get
  match m.opening? descriptor with
  | none => return
  | some n =>
    set { m with world := m.world.update n fun o => { o with place := o.place - bytes } }

/-- The next byte of a descriptor, which is read. -/
def readByte? (descriptor : Nat) : Act (Option Char) := do
  let m ← get
  match m.opening? descriptor with
  | none => return none
  | some n =>
    match m.world.openings[n]? with
    | none => return none
    | some o =>
      if o.reads = false then return none
      let byte? : Option UInt8 := match o.channel with
        | .file id =>
          let b := (m.world.files.data id).bytes
          if h : o.place < b.size then some (b.get o.place h) else none
        | .pipe b => if h : o.place < b.size then some (b.get o.place h) else none
        | .zero => some 0
        | _ => none
      match byte? with
      | none => return none
      | some x =>
        set { m with world := m.world.advance n 1 }
        return some (Char.ofNat x.toNat)

/-! ## 3. Complaints -/

/-- Says something on the stream for errors. -/
def say (text : String) : Act Unit := put 2 text

/-- Complains like the shell does: its name and the line stand in front. -/
def warn (text : String) : Act Unit := do
  let m ← get
  let speaker := match m.speaker with
    | some s => s ++ ": "
    | none => ""
  say (m.name ++ ": " ++ toString m.line ++ ": " ++ speaker ++ text ++ "\n")

/-- Sets the status. -/
def setStatus (status : Nat) : Act Unit := modify fun m => { m with status }

/-- Leaves what is going on because of an error of the shell, with a status. -/
def failWith {α : Type} (status : Nat) : Act α := do
  setStatus status
  throw .failing

/-- Complains and leaves what is going on. -/
def fail {α : Type} (text : String) : Act α := do
  warn text
  failWith 2

/-! ## 4. Variables -/

/-- The variable of a name. -/
def Machine.lookup (m : Machine) (name : String) : Option Variable := m.bindings.lookup name

/-- The value of a variable, if it has one. -/
def Machine.value? (m : Machine) (name : String) : Option String :=
  (m.lookup name).bind (·.value)

/-- The value of a variable, or nothing. -/
def Machine.value (m : Machine) (name : String) : String := (m.value? name).getD ""

/-- Whether an option is set. -/
def Machine.has (m : Machine) (option : Char) : Bool := m.options.contains option

/-- Changes the variable of a name in its place, or adds it as the last one. -/
def changeVariable (name : String) (v : Variable) :
    List (String × Variable) → List (String × Variable)
  | [] => [(name, v)]
  | (n, w) :: rest => if n = name then (n, v) :: rest else (n, w) :: changeVariable name v rest

/-- Sets a variable whatever it was before.  A new search path makes the shell look for all programs
again. -/
def forceVariable (name : String) (v : Variable) : Act Unit :=
  modify fun m => { m with
    bindings := changeVariable name v m.bindings
    found := if name = "PATH" then [] else m.found }

/-- Gives a variable a value; one that is not to be changed makes the shell fail. -/
def assign (name value : String) : Act Unit := do
  let m ← get
  let v := (m.lookup name).getD ⟨none, false, false⟩
  if v.readOnly then fail (name ++ ": is read only")
  else
    if name = "OPTIND" then
      let n := value.toNat?.getD 1
      modify fun m => { m with nextOption := (max n 1, 0) }
    forceVariable name { v with value := some value, exported := v.exported || m.has 'a' }

/-- Gives a variable a value and passes it on to programs. -/
def assignExported (name value : String) : Act Unit := do
  assign name value
  match (← get).lookup name with
  | some v => forceVariable name { v with exported := true }
  | none => pure ()

/-- Lets a variable be as it was. -/
def putBack : Kept → Act Unit
  | .variable name (some v) => forceVariable name v
  | .variable name none =>
    modify fun m => { m with bindings := m.bindings.filter fun v => v.1 ≠ name }
  | .options letters => modify fun m => { m with options := letters }

/-- Lets all variables that were made its own by what ends here be as they were. -/
def endLocals : Act Unit := do
  match (← get).locals with
  | [] => pure ()
  | kept :: rest =>
    modify fun m => { m with locals := rest }
    kept.forM putBack

/-- Has something come back at the end of what runs. -/
def keep (k : Kept) : Act Unit :=
  modify fun m => { m with locals := match m.locals with
    | [] => []
    | kept :: rest => (k :: kept) :: rest }

/-- Removes a variable. -/
def unset (name : String) : Act Unit := do
  match (← get).lookup name with
  | none => pure ()
  | some v =>
    if v.readOnly then fail (name ++ ": is read only")
    else modify fun m => { m with bindings := m.bindings.filter fun v => v.1 ≠ name }

/-- The place of a name in a table of the shell with so many places. -/
def slot (size : Nat) (name : String) : Nat :=
  match name.toList with
  | [] => 0
  | c :: cs => ((c :: cs).foldl (fun n d => n + d.toNat) (c.toNat * 16)) % size

/-- The variables that a program started from here gets, in the order of the table. -/
def Machine.environment (m : Machine) : List (String × String) :=
  let given := m.bindings.filterMap fun (n, v) =>
    match v.value with
    | some value => if v.exported then some (n, value) else none
    | none => none
  given.mergeSort fun a b => slot 39 a.1 ≤ slot 39 b.1

/-! ## 5. Processes -/

/-- A process at its start. -/
def Machine.start (world : World) (number : Nat) (ancestors : List Nat) (name : String)
    (environment : List (String × String)) (descriptors : List (Nat × Nat)) (mask : Nat)
    (traps : List (Nat × String)) : Machine where
  world
  identity := number
  number
  ancestors
  name
  parameters := []
  bindings := environment.map fun (n, v) => (n, ⟨some v, true, false⟩)
  locals := []
  functions := []
  aliases := []
  options := []
  status := 0
  substituted := 0
  line := 0
  lineRead := 0
  functionLine := 0
  speaker := none
  unwritten := false
  descriptors
  traps
  loopDepth := 0
  functionDepth := 0
  documents := []
  nextDocument := 0
  nextOption := (1, 0)
  lastBackground := none
  jobs := []
  found := []
  settled := none
  directory := ""
  mask

/-- The first place at which a process can be listed.  A process that was waited for leaves its
place to the next one. -/
def Machine.jobPlace (m : Machine) : Nat :=
  let isTaken (n : Nat) : Bool := m.jobs.any fun b => b.place = n && !b.awaited
  (((List.range (m.jobs.length + 1)).map (· + 1)).find? fun n => !isTaken n).getD 1

/-- Does something in a process of its own, which begins in the given state; what it changes in the
world stays. -/
def inProcess (start : Machine → Machine) (a : Act Unit) : Act End := do
  modify fun m => { m with jobs := m.jobs.filter fun b => b.place ≠ m.jobPlace }
  let m ← get
  let number := m.world.lastProcess + 1
  let child := start { m with
    world := { m.world with lastProcess := number }
    identity := number
    ancestors := m.identity :: m.ancestors }
  let finish (after : Machine) (e : End) : Act End := do
    let files := { after.world.files with
      workingDirectory := m.world.files.workingDirectory }
    set { m with world := { after.world with files } }
    return e
  match a child with
  | .ok _ after => finish after (.exited (after.status % 256))
  | .error (.killed s) after => finish after (.killed s)
  | .error .exhausted after => set { m with world := after.world }; throw .exhausted
  | .error _ after => finish after (.exited (after.status % 256))

/-- Does something, whatever it is left for; gives the reason. -/
def attempt {α : Type} (a : Act α) : Act (Except Leave α) := fun m =>
  match a m with
  | .ok x m => .ok (.ok x) m
  | .error e m => .ok (.error e) m

/-- Goes on from one state to the next until there is a value, in at most `limit` rounds. -/
def rounds {σ α : Type} (step : σ → Act (σ ⊕ α)) : (limit : Nat) → σ → Act α
  | 0, _ => throw .exhausted
  | limit + 1, s => do
    match ← step s with
    | .inl next => rounds step limit next
    | .inr a => return a

/-- How many rounds a loop may go. -/
def roundLimit : Nat := 1000000000

/-! ## 6. Files -/

/-- The file system that the process sees. -/
def files : Act FileSystem := return (← get).world.files

/-- Changes the file system. -/
def setFiles (fs : FileSystem) : Act Unit :=
  modify fun m => { m with world := { m.world with files := fs } }

/-- What a path leads to. -/
def resolve (path : String) : Act (Except Errno Resolved) :=
  return (← files).resolve (Text.widen path)

/-- What stands at a path; a link stands for itself unless the path asks for a directory. -/
def entryAt (path : String) : Act (Except Errno Node) := do
  let fs ← files
  let path := Text.widen path
  let followed : Except Errno Node :=
    match fs.resolve path with
    | .ok (.directory _ fault inside) => .ok (.dir fault inside)
    | .ok (.file id) => .ok (.leaf (.file id))
    | .ok .special => .ok (.leaf .special)
    | .error e => .error e
  match fs.locate path with
  | .error e => return if e = .alreadyThere then followed else .error e
  | .ok s =>
    match fs.at? s, s.asDirectory with
    | none, _ => return .error .noEntry
    | some node, false => return .ok node
    | some _, true =>
      match followed with
      | .ok (.leaf _) => return .error .notDirectory
      | other => return other

/-- Tries to change the file system. -/
def change (f : FileSystem → String → Except Errno FileSystem) (path : String) :
    Act (Except Errno Unit) := do
  match f (← files) (Text.widen path) with
  | .ok fs => setFiles fs; return .ok ()
  | .error e => return .error e

end TidyTree.Shell
