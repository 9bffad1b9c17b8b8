/-
TidyTree.WaitStatus — how a process ended.

The system reports the end of a process as one 32-bit word.
`WaitStatus.ending` reads it: low seven bits 0 for an exit, 1 to 126
for a signal, and with all seven bits set the two bytes above decide
between stopped, continued and a word that means nothing.  Code, signal
and text of a status are all read from the ending, so they cannot
disagree.
-/

namespace TidyTree

/-! ## 1. Signals -/

/-- A signal, by its number. -/
structure Signal where
  number : Nat
deriving DecidableEq, Repr

namespace Signal

/-- The names of the signals 1 to 31. -/
def names : List String :=
  ["SIGHUP", "SIGINT", "SIGQUIT", "SIGILL", "SIGTRAP", "SIGABRT", "SIGBUS", "SIGFPE", "SIGKILL",
    "SIGUSR1", "SIGSEGV", "SIGUSR2", "SIGPIPE", "SIGALRM", "SIGTERM", "SIGSTKFLT", "SIGCHLD",
    "SIGCONT", "SIGSTOP", "SIGTSTP", "SIGTTIN", "SIGTTOU", "SIGURG", "SIGXCPU", "SIGXFSZ",
    "SIGVTALRM", "SIGPROF", "SIGWINCH", "SIGIO", "SIGPWR", "SIGSYS"]

/-- The name of the signal, if it has one. -/
def name? (s : Signal) : Option String :=
  if s.number = 0 then none else names[s.number - 1]?

/-- The number, and the name in parentheses if there is one. -/
def text (s : Signal) : String :=
  match s.name? with
  | some n => toString s.number ++ " (" ++ n ++ ")"
  | none => toString s.number

end Signal

/-! ## 2. The word and what it says -/

/-- The word with which the system reports how a process ended. -/
structure WaitStatus where
  word : BitVec 32
deriving DecidableEq, Repr

/-- What a wait status says. -/
inductive Ending where
  /-- The process exited by itself with this code. -/
  | exited (code : Nat)
  /-- A signal ended the process, perhaps leaving a core file. -/
  | killed (signal : Signal) (core : Bool)
  /-- A signal stopped the process; it has not ended. -/
  | stopped (signal : Signal)
  /-- The process was stopped and goes on. -/
  | continued
  /-- The word has no meaning. -/
  | unrecognised
deriving DecidableEq, Repr

namespace WaitStatus

/-- The status of a process that exited with code 0. -/
def success : WaitStatus := ⟨0⟩

/-- The status whose word is the given signed number, modulo `2 ^ 32`. -/
def ofInt (n : Int) : WaitStatus := ⟨BitVec.ofInt 32 n⟩

/-- The status of a process that exited with this code, of which the low eight bits count. -/
def exit (code : Nat) : WaitStatus := ⟨BitVec.ofNat 32 (code % 256 * 256)⟩

/-- The status of a process ended by this signal without a core file. -/
def kill (signal : Signal) : WaitStatus := ⟨BitVec.ofNat 32 (signal.number % 127)⟩

/-- The word as a natural number. -/
def toNat (w : WaitStatus) : Nat := w.word.toNat

/-- What the word says. -/
def ending (w : WaitStatus) : Ending :=
  let low := w.toNat % 128
  let second := w.toNat / 256 % 256
  if low = 0 then .exited second
  else if low < 127 then .killed ⟨low⟩ (w.toNat / 128 % 2 = 1)
  else if w.toNat % 256 = 127 then .stopped ⟨second⟩
  else if w.toNat = 0xffff then .continued
  else .unrecognised

/-- Only the word zero is a success: other words may also say exit code 0. -/
def isSuccess (w : WaitStatus) : Bool := w.word == 0

/-- The exit code, if the process exited by itself. -/
def code? (w : WaitStatus) : Option Nat :=
  match w.ending with
  | .exited c => some c
  | _ => none

/-- The signal that ended the process, if one did. -/
def signal? (w : WaitStatus) : Option Signal :=
  match w.ending with
  | .killed s _ => some s
  | _ => none

/-- The word in lower case hexadecimal. -/
def hex (w : WaitStatus) : String := "0x" ++ String.ofList (Nat.toDigits 16 w.toNat)

/-- What the status is called. -/
def text (w : WaitStatus) : String :=
  match w.ending with
  | .exited c => "exit status: " ++ toString c
  | .killed s core => "signal: " ++ s.text ++ (if core then " (core dumped)" else "")
  | .stopped s => "stopped (not terminated) by signal: " ++ s.text
  | .continued => "continued (WIFCONTINUED)"
  | .unrecognised => "unrecognised wait status: " ++ toString w.word.toInt ++ " " ++ w.hex

/-- A status has an exit code or a signal, never both. -/
theorem code?_eq_none_or_signal?_eq_none (w : WaitStatus) : w.code? = none ∨ w.signal? = none := by
  unfold code? signal?
  cases w.ending <;> simp

end WaitStatus

end TidyTree
