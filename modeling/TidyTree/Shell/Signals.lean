/-
TidyTree.Shell.Signals — sending signals and what they do.

A signal that a process sends to itself acts at once unless the process
has said what to do instead.  One that is sent to a process further up
waits in the world until that process goes on.  Processes that were not
waited for have ended already, but one of them that would still be
running at this time is ended by the signal.
-/
import TidyTree.Shell.Machine

namespace TidyTree.Shell

/-! ## 1. Names -/

/-- How many signals there are, counting from zero. -/
def signalCount : Nat := 65

/-- The name of a signal as the shell writes it; zero is the end of the shell. -/
def signalName (n : Nat) : String :=
  if n = 0 then "EXIT"
  else if n = 16 ∨ n = 32 ∨ n = 33 then toString n
  else if n ≤ 31 then String.ofList ((((Signal.mk n).name?).getD "").toList.drop 3)
  else if n = 34 then "RTMIN"
  else if n < 50 then "RTMIN+" ++ toString (n - 34)
  else if n < 64 then "RTMAX-" ++ toString (64 - n)
  else "RTMAX"

/-- The signal that a text names by its number or its name, with a number of at least `least`. -/
def signal? (least : Nat) (s : String) : Option Nat :=
  if s ≠ "" ∧ s.toList.all Char.isDigit then
    let n := s.toList.foldl (fun n c => n * 10 + (c.toNat - 48)) 0
    if n < signalCount then some n else none
  else
    (List.range signalCount).find? fun n =>
      least ≤ n && s.map Char.toUpper = signalName n

/-- What happened to a process that a signal ended, in words. -/
def signalTexts : List String :=
  ["Hangup", "Interrupt", "Quit", "Illegal instruction", "Trace/breakpoint trap", "Aborted",
    "Bus error", "Floating point exception", "Killed", "User defined signal 1",
    "Segmentation fault", "User defined signal 2", "Broken pipe", "Alarm clock", "Terminated",
    "Stack fault", "Child exited", "Continued", "Stopped (signal)", "Stopped",
    "Stopped (tty input)", "Stopped (tty output)", "Urgent I/O condition",
    "CPU time limit exceeded", "File size limit exceeded", "Virtual timer expired",
    "Profiling timer expired", "Window changed", "I/O possible", "Power failure",
    "Bad system call"]

/-- A signal in words. -/
def signalText (s : Signal) : String :=
  if s.number ≥ 34 then "Real-time signal " ++ toString (s.number - 34)
  else (signalTexts[s.number - 1]?).getD ("Unknown signal " ++ toString s.number)

/-- Whether a process goes on after the signal if it has made no arrangements. -/
def isHarmless (signal : Nat) : Bool := [0, 17, 18, 19, 20, 21, 22, 23, 28].contains signal

/-! ## 2. Sending -/

/-- Lets a signal act on the process itself. -/
def receive (signal : Nat) : Act Unit := do
  let m ← get
  match m.traps.lookup signal with
  | some "" => pure ()
  | some _ =>
    if signal = 9 then throw (.killed ⟨9⟩)
    else if signal ≠ 0 then
      let sent := (m.identity, signal) :: m.world.sent
      set { m with world := { m.world with sent } }
  | none => if isHarmless signal then pure () else throw (.killed ⟨signal⟩)

/-- Ends a process beside the shell, if it would still be running. -/
def Background.stop (signal clock : Nat) (b : Background) : Background :=
  if clock < b.ending ∧ ¬ isHarmless signal then
    { b with ended := .killed ⟨signal⟩, ending := clock }
  else b

/-- Sends a signal to a process; the answer says whether there is one of that number. -/
def send (signal : Nat) (target : Int) : Act Bool := do
  let m ← get
  if target = m.identity then
    receive signal
    return true
  else if m.ancestors.any fun a => target = a then
    let sent := (target.toNat, signal) :: m.world.sent
    set { m with world := { m.world with sent } }
    return true
  else if m.jobs.any fun b => target = b.number then
    let change (b : Background) : Background :=
      if target = b.number then b.stop signal m.world.clock else b
    set { m with jobs := m.jobs.map change }
    return true
  else return false

/-! ## 3. Waiting -/

/-- The status that stands for how a process ended. -/
def End.status : End → Nat
  | .exited n => n
  | .killed s => 128 + s.number

/-- Says how a process ended, if a signal ended it. -/
def reportEnd (e : End) : Act Unit := do
  match e with
  | .killed s => if s.number = 2 ∨ s.number = 13 then pure () else say (signalText s ++ "\n")
  | .exited _ => pure ()

/-- Waits for a process that was started; gives its status. -/
def awaitBackground (b : Background) : Act Nat := do
  let wait (c : Background) : Background :=
    if c.number = b.number then { c with awaited := true } else c
  modify fun m => { m with
    world := { m.world with clock := max m.world.clock b.ending }
    jobs := m.jobs.map wait }
  return b.ended.status

/-- Carries out what was said for the signals that have come. -/
def takeSignals (perform : Performer) : Act Unit := do
  let m ← get
  if m.world.sent.isEmpty then return
  let mine := (m.world.sent.filter fun s => s.1 = m.identity).map (·.2)
  let others := m.world.sent.filter fun s => s.1 ≠ m.identity
  set { m with world := { m.world with sent := others } }
  mine.mergeSort.forM fun signal => do
    match (← get).traps.lookup signal with
    | none => receive signal
    | some "" => pure ()
    | some action =>
      let m ← get
      let status := m.settled.getD m.status
      set { m with settled := some status }
      match ← attempt (perform (.source action false false)) with
      | .ok _ => modify fun after => { after with settled := m.settled, status }
      | .error e =>
        if e = .returning then modify fun after => { after with settled := m.settled }
        throw e

end TidyTree.Shell
