/-
TidyTree.Tool.Awk.State — the state of a running program.

What a program prints is kept back until it has to be seen: when another
process begins, when a file is closed, or at the end.  A command that is
printed to gets all its input when it is closed.
-/
import TidyTree.Tool.Awk.Value
import TidyTree.Tool.Programs

namespace TidyTree.Tool.Awk

open Shell

/-! ## 1. State -/

/-- What a name stands for. -/
inductive Slot where
  | scalar (v : Value)
  | table (id : Nat)
  /-- Nothing yet, but this table if one is asked for. -/
  | possible (id : Nat)

/-- Something that is printed to. -/
structure Sink where
  name : String
  isCommand : Bool
  /-- The opening of a file. -/
  opening : Option Nat
  /-- What was not written yet, the last part first. -/
  waiting : List String

/-- Something from which records are read. -/
structure Source where
  name : String
  isCommand : Bool
  rest : List Char
  /-- The status of the command. -/
  status : Nat

/-- The state of a running program. -/
structure State where
  program : Program
  perform : Performer
  globals : List (String × Slot)
  /-- The parameters of the function that runs. -/
  locals : List (String × Slot)
  tables : Array Table
  /-- The tables that were asked for where there was nothing yet. -/
  asked : List Nat
  record : Value
  fields : Array Value
  /-- The argument that is looked at next, and what is left of the file that is read. -/
  nextArgument : Nat
  reading : Option (List Char)
  /-- Whether a file was among the arguments so far. -/
  hadFile : Bool
  sources : List Source
  sinks : List Sink
  /-- What was printed and not written yet, the last part first. -/
  printed : List String
  /-- The numbers of the ranges in which the record is. -/
  ranges : List Nat
  seed : Nat
  /-- The status with which the program is to end. -/
  status : Nat

/-- Why something is left before its end. -/
inductive Jump where
  | leaveLoop
  | nextRound
  | nextRecord
  | nextFile
  | exit
  | giveBack (v : Value)

/-- What a running program does. -/
abbrev Run := ExceptT Jump (StateT State Act)

/-- Something that a process does, done by a running program. -/
def act {α : Type} (a : Act α) : Run α := ExceptT.lift (StateT.lift a)

/-! ## 2. Printing -/

/-- Writes what was printed. -/
def writePrinted : Run Unit := do
  let s ← get
  set { s with printed := [] }
  act (print (String.join s.printed.reverse))

/-- Writes what a file waits for. -/
def Sink.written (s : Sink) : Run Sink := do
  match s.opening with
  | none => return s
  | some n =>
    let text := String.join s.waiting.reverse
    act do
      match (← get).world.write n text with
      | .ok world => modify fun m => { m with world }
      | .error _ => pure ()
    return { s with waiting := [] }

/-- Writes all that was printed to the output and to files. -/
def writeAll : Run Unit := do
  writePrinted
  let sinks ← (← get).sinks.mapM Sink.written
  modify fun s => { s with sinks }

/-- The number by which a program learns how a process ended. -/
def statusOf : End → Nat
  | .exited n => n
  | .killed signal => 256 + signal.number

/-- Runs a command, perhaps with an input; gives its status and, if that is asked for, its
output. -/
def runText (command : String) (input : Option String) (keepsOutput : Bool) :
    Run (Nat × String) := do
  let perform := (← get).perform
  act do
    let before := (← get).descriptors
    match input with
    | some text =>
      let n ← addOpening ⟨.pipe (Text.toBytes text), 0, true, false, false⟩
      setDescriptor 0 (some n)
    | none => pure ()
    let out ← addOpening ⟨.pipe .empty, 0, true, true, false⟩
    if keepsOutput then setDescriptor 1 (some out)
    let ended ← runProgram perform "/bin/sh" ["-c", command]
    modify fun m => { m with descriptors := before }
    let text := match ((← get).world.openings[out]?).map (·.channel) with
      | some (.pipe b) => Text.ofBytes b
      | _ => ""
    match ended with
    | .ok e => return (statusOf e, text)
    | .error _ => return (127, text)

/-- Ends printing to something; gives the status. -/
def Sink.closed (s : Sink) : Run Nat := do
  if s.isCommand then return (← runText s.name (some (String.join s.waiting.reverse)) false).1
  else
    let _ ← s.written
    return 0

/-- Ends printing to everything. -/
def closeAll : Run Unit := do
  let sinks := (← get).sinks
  modify fun s => { s with sinks := [] }
  sinks.forM fun s => do let _ ← s.closed
  writePrinted

/-- Complains and ends the program. -/
def fatal {α : Type} (text : String) : Run α := do
  closeAll
  act (refuse 2 text)

/-- Opens what is printed to under a name. -/
def newSink (name : String) (isCommand appends : Bool) : Run Sink := do
  if isCommand then
    writeAll
    return ⟨name, true, none, []⟩
  else
    match ← act (openFile name (if appends then .append else .write)) with
    | .ok n => return ⟨name, false, some n, []⟩
    | .error e => fatal ("cannot open \"" ++ name ++ "\" for output (" ++ e.text ++ ")")

/-- Prints a text to a file or a command. -/
def printInto (name : String) (isCommand appends : Bool) (text : String) : Run Unit := do
  if ¬ isCommand ∧ name = "/dev/stdout" then
    modify fun s => { s with printed := text :: s.printed }
  else if ¬ isCommand ∧ name = "/dev/stderr" then act (say text)
  else
    let isIt (s : Sink) : Bool := s.name = name && s.isCommand = isCommand
    let sink ← match (← get).sinks.find? isIt with
      | some s => pure s
      | none => newSink name isCommand appends
    modify fun s => { s with
      sinks := { sink with waiting := text :: sink.waiting } :: s.sinks.filter fun t => !isIt t }

/-! ## 3. Names -/

/-- What a name stands for. -/
def slotOf (name : String) : Run (Option Slot) := do
  let s ← get
  return (s.locals.lookup name) <|> (s.globals.lookup name)

/-- Lets a name stand for something. -/
def setSlot (name : String) (slot : Slot) : Run Unit :=
  modify fun s =>
    let put (all : List (String × Slot)) : List (String × Slot) :=
      all.map fun e => if e.1 = name then (name, slot) else e
    if (s.locals.lookup name).isSome then { s with locals := put s.locals }
    else if (s.globals.lookup name).isSome then { s with globals := put s.globals }
    else { s with globals := (name, slot) :: s.globals }

/-- Adds a table without rows. -/
def addTable : Run Nat :=
  modifyGet fun s => (s.tables.size, { s with tables := s.tables.push .empty })

/-- The table that a name stands for. -/
def tableOf (name : String) : Run Nat := do
  match ← slotOf name with
  | some (.table id) => return id
  | some (.possible id) =>
    modify fun s => { s with asked := id :: s.asked }
    setSlot name (.table id)
    return id
  | none | some (.scalar .unset) =>
    let id ← addTable
    setSlot name (.table id)
    return id
  | some (.scalar _) => fatal ("illegal reference to variable " ++ name)

/-- Does something with a table. -/
def withTable {α : Type} (id : Nat) (f : Table → Table × α) : Run α := do
  let s ← get
  let (t, x) := f ((s.tables[id]?).getD .empty)
  set { s with tables := s.tables.modify id fun _ => t }
  return x

/-! ## 4. Splitting -/

/-- Where a text is split. -/
inductive Separator where
  | blanks
  | everywhere
  | fitting (r : Regex)

/-- The regular expression that a text writes. -/
def regexOfText (text : String) : Run Regex := do
  match regexOf text.toList with
  | .ok r => return r
  | .error e => fatal (regexComplaint text.toList e)

/-- The separator that a text stands for. -/
def separatorOf (text : String) : Run Separator := do
  match text.toList with
  | [' '] => return .blanks
  | [] => return .everywhere
  | [c] => return .fitting (.one c)
  | _ => return .fitting (← regexOfText text)

/-- The next place from a place on at which an expression fits at least one character. -/
def nextFilled (r : Regex) (x : Subject) : (fuel : Nat) → (place : Nat) → Option Regex.Found
  | 0, _ => none
  | fuel + 1, place =>
    match r.find? x place with
    | none => none
    | some f => if f.first < f.last then some f else nextFilled r x fuel (f.first + 1)

/-- The parts of a text between what an expression fits. -/
def partsBetween (r : Regex) (x : Subject) : (fuel : Nat) → (place : Nat) → List String
  | 0, _ => []
  | fuel + 1, place =>
    match nextFilled r x (x.text.size + 1) place with
    | none => [String.ofList (x.text.extract place x.text.size).toList]
    | some f =>
      String.ofList (x.text.extract place f.first).toList :: partsBetween r x fuel f.last

/-- The words between blanks. -/
def blankWords : (fuel : Nat) → List Char → List String
  | 0, _ => []
  | fuel + 1, cs =>
    match cs.dropWhile CharClass.space.has with
    | [] => []
    | rest =>
      let word := rest.takeWhile fun c => !CharClass.space.has c
      String.ofList word :: blankWords fuel (rest.drop word.length)

/-- Splits a text. -/
def Separator.split (s : Separator) (text : String) : List String :=
  if text = "" then []
  else
    match s with
    | blanks => blankWords (text.length + 1) text.toList
    | everywhere => text.toList.map Char.toString
    | fitting r => partsBetween r ⟨text.toList.toArray, false, false⟩ (text.length + 2) 0

/-! ## 5. Variables -/

/-- The value of a variable. -/
def valueOf (name : String) : Run Value := do
  let count := (← get).fields.size
  let isCount := name = "NF" && ((← get).locals.lookup name).isNone
  if isCount then return .number (Float.ofNat count)
  match ← slotOf name with
  | some (.scalar v) => return v
  | some (.table _) => fatal ("illegal reference to array " ++ name)
  | some (.possible _) | none => return .unset

/-- The layout of numbers that become texts. -/
def textFormat : Run String := return (← valueOf "CONVFMT").toText "%.6g"

/-- The text of a value. -/
def textOf (v : Value) : Run String := do
  match v with
  | .number x => if isWhole x then return v.toText "" else return v.toText (← textFormat)
  | _ => return v.toText ""

/-- The text of a variable. -/
def textIn (name : String) : Run String := do textOf (← valueOf name)

/-- Takes a value for the record. -/
def setRecord (v : Value) : Run Unit := do
  let parts := (← separatorOf (← textIn "FS")).split (← textOf v)
  modify fun s => { s with record := v, fields := (parts.map Value.ofInput).toArray }

/-- Puts the record together from its fields. -/
def joinFields : Run Unit := do
  let between ← textIn "OFS"
  let texts ← (← get).fields.toList.mapM textOf
  modify fun s => { s with record := .ofInput (between.intercalate texts) }

/-- The most fields that a record may have. -/
def fieldLimit : Nat := 32767

/-- Lets the record have so many fields. -/
def setFieldCount (n : Nat) : Run Unit := do
  if fieldLimit < n then
    fatal ("program limit exceeded: maximum number of fields size=" ++ toString fieldLimit)
  modify fun s =>
    let fields := s.fields.extract 0 n
    { s with fields := fields ++ Array.replicate (n - fields.size) (.text "") }
  joinFields

/-- The field of a number. -/
def fieldAt (x : Float) : Run Value := do
  if x < 0 then fatal ("negative field index $" ++ toString (wholeOf x))
  let s ← get
  match (wholeOf x).toNat with
  | 0 => return s.record
  | n + 1 => return (s.fields[n]?).getD .unset

/-- Gives a value to a field. -/
def setField (x : Float) (v : Value) : Run Unit := do
  if x < 0 then fatal ("negative field index $" ++ toString (wholeOf x))
  match (wholeOf x).toNat with
  | 0 => setRecord v
  | n + 1 =>
    if (← get).fields.size ≤ n then setFieldCount (n + 1)
    modify fun s => { s with fields := s.fields.modify n fun _ => v }
    joinFields

/-- Gives a value to a variable. -/
def setVariable (name : String) (v : Value) : Run Unit := do
  match ← slotOf name with
  | some (.table _) => fatal ("illegal reference to array " ++ name)
  | _ => setSlot name (.scalar v)
  if name = "NF" ∧ ((← get).locals.lookup name).isNone then
    setFieldCount (wholeOf v.toNumber).toNat

/-- Counts a variable up. -/
def countUp (name : String) : Run Unit := do
  setVariable name (.number ((← valueOf name).toNumber + 1))

/-! ## 6. Records -/

/-- The first record of a text and what follows it. -/
def recordIn (separator : String) (cs : List Char) : Run (Option (String × List Char)) := do
  if cs.isEmpty then return none
  match separator.toList with
  | [c] =>
    let front := cs.takeWhile (· ≠ c)
    return some (String.ofList front, cs.drop (front.length + 1))
  | [] =>
    let cs := cs.dropWhile (· = '\n')
    if cs.isEmpty then return none
    let rec paragraph : List Char → List Char × List Char
      | '\n' :: '\n' :: rest => ([], rest.dropWhile (· = '\n'))
      | ['\n'] | [] => ([], [])
      | c :: rest => let (front, rest) := paragraph rest; (c :: front, rest)
    let (front, rest) := paragraph cs
    return some (String.ofList front, rest)
  | _ =>
    let x : Subject := ⟨cs.toArray, false, false⟩
    match nextFilled (← regexOfText separator) x (cs.length + 1) 0 with
    | none => return some (String.ofList cs, [])
    | some f => return some (String.ofList (cs.take f.first), cs.drop f.last)

/-- Gives a variable the value that an argument sets; gives whether it is one that does. -/
def assignArgument (a : String) : Run Bool := do
  let name := a.toList.takeWhile fun c => isNameStart c || c.isDigit
  match a.toList.drop name.length, name.head?.map isNameStart with
  | '=' :: value, some true =>
    setVariable (String.ofList name)
      (.ofInput (String.ofList (unescaped (value.length + 1) value)))
    return true
  | _, _ => return false

/-- The text of an argument. -/
def argumentAt (n : Nat) : Run (Option String) := do
  let format ← textFormat
  let id ← tableOf "ARGV"
  let v ← withTable id fun t =>
    match t.find false format (.number (Float.ofNat n)) with
    | (t, some row) => (t, some (t.valueAt row))
    | (t, none) => (t, none)
  match v with
  | some v => return some (← textOf v)
  | none => return none

/-- Begins to read a file. -/
def beginFile (name : String) : Run Unit := do
  let isInput := name = "-" || name = "/dev/stdin"
  if ¬ isInput then
    match ← act (resolve name) with
    | .error e => fatal ("cannot open \"" ++ name ++ "\" (" ++ e.text ++ ")")
    | .ok _ => pure ()
  match ← act (inputText (if isInput then "-" else name)) with
  | .error e => fatal ("read error (" ++ e.text ++ ")")
  | .ok text =>
    setVariable "FNR" (.number 0)
    modify fun s => { s with reading := some text.toList, hadFile := true }

/-- Goes on to the next file among the arguments, or to the input if there is none at all; gives
whether there is one. -/
def nextInput : (count : Nat) → Run Bool
  | 0 => return false
  | count + 1 => do
    let s ← get
    let last := (wholeOf (← valueOf "ARGC").toNumber).toNat
    if last ≤ s.nextArgument then
      if s.hadFile then return false
      else
        beginFile "-"
        return true
    else
      modify fun s => { s with nextArgument := s.nextArgument + 1 }
      match ← argumentAt s.nextArgument with
      | none | some "" => nextInput count
      | some a =>
        if ← assignArgument a then nextInput count
        else
          setVariable "FILENAME" (.text a)
          beginFile a
          return true

/-- The next record of the files that are read. -/
def nextRecordText : (count : Nat) → Run (Option String)
  | 0 => return none
  | count + 1 => do
    match (← get).reading with
    | none => if ← nextInput 100000 then nextRecordText count else return none
    | some rest =>
      match ← recordIn (← textIn "RS") rest with
      | some (text, rest) =>
        modify fun s => { s with reading := some rest }
        return some text
      | none =>
        modify fun s => { s with reading := none }
        nextRecordText count

/-- How many files may follow one another without a record. -/
def fileLimit : Nat := 100000

end TidyTree.Tool.Awk
