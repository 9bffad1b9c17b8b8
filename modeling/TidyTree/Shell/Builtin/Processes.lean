/-
TidyTree.Shell.Builtin.Processes — the commands of the shell for signals
and for processes that were not waited for.
-/
import TidyTree.Shell.Builtin.Variables
import TidyTree.Shell.Signals

namespace TidyTree.Shell

/-! ## 1. What to do on signals -/

/-- Says what is to be done when signals come, or lists it. -/
def trapCommand (args : List String) : Act Nat := do
  let (_, args) ← optionLetters [] args
  match args with
  | [] =>
    let m ← get
    (m.traps.mergeSort fun a b => a.1 ≤ b.1).forM fun (n, action) =>
      print ("trap -- " ++ singleQuoted action ++ " " ++ signalName n ++ "\n")
    return 0
  | a :: rest =>
    let isNumber := a ≠ "" ∧ a.toList.all Char.isDigit ∧ (signal? 0 a).isSome
    let (action, names) : Option String × List String :=
      if rest.isEmpty ∨ isNumber then (none, args)
      else (if a = "-" then none else some a, rest)
    let set (n : Nat) : Act Unit := modify fun m =>
      let others := m.traps.filter fun t => t.1 ≠ n
      { m with traps := match action with
        | some action => (n, action) :: others
        | none => others }
    let known := names.takeWhile fun s => (signal? 0 s).isSome
    (known.filterMap (signal? 0)).forM set
    match names.drop known.length with
    | [] => return 0
    | bad :: _ =>
      say ("trap: " ++ bad ++ ": bad trap\n")
      return 1

/-! ## 2. Sending signals -/

/-- How the command that sends signals is used. -/
def killUsage : String :=
  "Usage: kill [-s sigspec | -signum | -sigspec] [pid | job]... or\nkill -l [exitstatus]"

/-- Prints the name of a signal, or of the one that a status tells of. -/
def nameSignal (operands : List String) : Act Nat := do
  match operands with
  | [] =>
    print "0\n"
    ((List.range signalCount).drop 1).forM fun n => print (signalName n ++ "\n")
    return 0
  | a :: _ =>
    let n ← count a
    let n := if n > 128 then n - 128 else n
    if 0 < n ∧ n < signalCount then
      print (signalName n ++ "\n")
      return 0
    else fail ("invalid signal number or exit status: " ++ a)

/-- The process that a text names, or all of a group if it has a sign. -/
def processNumber (s : String) : Act Int := do
  match s.toList with
  | '%' :: _ => fail ("No such job: " ++ s)
  | '-' :: ds => return -(← count (String.ofList ds) : Nat)
  | _ => return (← count s : Nat)

/-- Sends a signal to processes. -/
def killCommand (args : List String) : Act Nat := do
  let direct : Option Nat := (args.head?.filter fun a => a.toList.head? = some '-').bind fun a =>
    signal? 1 (String.ofList (a.toList.drop 1))
  let size := args.foldl (fun n a => n + a.length) (args.length + 1)
  let (options, operands) ←
    if direct.isSome then pure ([], args.tail) else readOptions ['l'] ['s'] size [] args
  let listing := options.any fun o => o.1 = 'l'
  let named ← (options.filter fun o => o.1 = 's').mapM fun o => do
    match signal? 1 o.2 with
    | some n => return n
    | none => fail ("invalid signal number or name: " ++ o.2)
  let signal := (direct <|> named.getLast?).getD 15
  if listing then
    if named.isEmpty then nameSignal operands else fail killUsage
  else if operands.isEmpty then fail killUsage
  else
    let missing ← operands.filterM fun a => do
      if ← send signal (← processNumber a) then return false
      else
        warn "No such process\n"
        return true
    return if missing.isEmpty then 0 else 1

/-! ## 3. Processes -/

/-- How the list of jobs tells of a process at a time. -/
def Background.shown (clock : Nat) (b : Background) : String :=
  if clock < b.ending then "Running"
  else
    match b.ended with
    | .exited 0 => "Done"
    | .exited n => "Done(" ++ toString n ++ ")"
    | .killed s => signalText s

/-- A line about a process in the list; `listed` are those that are still listed, the current one
first. -/
def Background.row (withNumber : Bool) (clock : Nat) (listed : List Background) (b : Background) :
    String :=
  let isAt (n : Nat) : Bool := (listed[n]?.map (·.place)) = some b.place
  let sign := if isAt 0 then "+" else if isAt 1 then "-" else " "
  let front := "[" ++ toString b.place ++ "] " ++ sign ++ " " ++
    (if withNumber then toString b.number ++ " " else "") ++ b.shown clock
  front ++ String.ofList (List.replicate (max 1 (33 - front.length)) ' ')

/-- Shows the processes beside the shell, the last one first, and forgets those that have ended. -/
def jobsCommand (args : List String) : Act Nat := do
  let (options, _) ← optionLetters ['l', 'p'] args
  for b in (← get).jobs do
    let m ← get
    let clock := m.world.clock
    print ((if options.getLast? = some 'p' then toString b.number
      else b.row (options.contains 'l') clock m.jobs) ++ "\n")
    if clock ≥ b.ending then
      modify fun m => { m with jobs := m.jobs.filter fun c => c.place ≠ b.place }
  return 0

/-- Waits for processes. -/
def waitCommand (args : List String) : Act Nat := do
  let (_, operands) ← optionLetters [] args
  if operands.isEmpty then
    for b in (← get).jobs do
      let _ ← awaitBackground b
    return 0
  let statuses ← operands.mapM fun a => do
    let number ← processNumber a
    match (← get).jobs.find? fun b => number = b.number with
    | some b =>
      reportEnd b.ended
      awaitBackground b
    | none => return 127
  return statuses.getLastD 0

end TidyTree.Shell
