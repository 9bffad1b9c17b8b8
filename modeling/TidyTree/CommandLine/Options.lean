/-
TidyTree.CommandLine.Options — reading the arguments of the program.

The arguments are read one after the other.  The level may follow its
option as an argument of its own; until it is there, or until the next
option asks for it, it is pending.  Reading ends with a request: to run
with some options, to show the help or the version, or to refuse the
arguments with an error.
-/
import TidyTree.CommandLine.Similar
import TidyTree.Log

namespace TidyTree.CommandLine

/-! ## 1. Options and errors -/

/-- The options of the program. -/
inductive Flag where
  | logLevel
  | quiet
  | help
  | version
deriving DecidableEq, Repr

namespace Flag

/-- The options in their order. -/
def all : List Flag := [logLevel, quiet, help, version]

/-- The name of an option. -/
def name : Flag → String
  | logLevel => "log-level"
  | quiet => "quiet"
  | help => "help"
  | version => "version"

/-- The option of that name. -/
def ofName? (s : String) : Option Flag := all.find? fun f => f.name == s

/-- What an option takes as its value, if it takes one. -/
def value? : Flag → Option String
  | logLevel => some "<LOG_LEVEL>"
  | _ => none

/-- The option as it is shown, with its value. -/
def text (f : Flag) : String :=
  "--" ++ f.name ++ (match f.value? with
    | some v => " " ++ v
    | none => "")

end Flag

/-- Why arguments are refused.  Where the options are shown that were used, they are kept. -/
inductive UsageError where
  /-- There is no such argument, but perhaps a similar option. -/
  | unknown (argument : String) (similar : Option String) (used : List Flag)
  /-- The option was given before. -/
  | repeated (flag : Flag)
  /-- The option takes no value; others may have been taken into account before it. -/
  | unexpectedValue (flag : Flag) (value : String) (afterOthers : Bool)
  /-- There is no such level. -/
  | invalidLevel (value : String)
  /-- The level is missing. -/
  | missingLevel
deriving DecidableEq, Repr

/-- How the program reports. -/
structure Options where
  quiet : Bool
  level : Threshold
deriving DecidableEq, Repr

/-- What the arguments ask for. -/
inductive Request where
  | run (options : Options)
  | help
  | version
  | refuse (error : UsageError)
deriving DecidableEq, Repr

/-! ## 2. Reading -/

/-- What was read so far: the options used, in the order in which they came, and the level. -/
structure Seen where
  used : List Flag
  level : Threshold
deriving DecidableEq, Repr

/-- Nothing was read; the level is `info` unless another is given. -/
def Seen.start : Seen := ⟨[], .upTo .info⟩

/-- The option of the level, from when it is read until it is taken into account. -/
inductive Pending where
  | nothing
  /-- The option was read, the level not yet. -/
  | option
  /-- The level was read too. -/
  | level (value : String)
deriving DecidableEq, Repr

namespace Seen

/-- Marks an option as used. -/
def use (s : Seen) (f : Flag) : Seen :=
  { s with used := if s.used.contains f then s.used else s.used ++ [f] }

/-- Takes a level into account. -/
def setLevel (s : Seen) (value : String) : Except UsageError Seen :=
  if s.used.contains .logLevel then .error (.repeated .logLevel)
  else
    match Threshold.ofName? value with
    | some t => .ok { s.use .logLevel with level := t }
    | none => .error (.invalidLevel value)

/-- Takes what is pending into account. -/
def settle (s : Seen) : Pending → Except UsageError Seen
  | .nothing => .ok s
  | .option => .error .missingLevel
  | .level value => s.setLevel value

/-- The options used, what is pending included; a level that was given before makes its option
count as not used. -/
def usedWith (s : Seen) : Pending → List Flag
  | .level _ =>
    if s.used.contains .logLevel then s.used.erase .logLevel else s.used ++ [.logLevel]
  | _ => s.used

end Seen

/-- An argument after its two dashes: the name, and the value behind the first equals sign. -/
def splitLong (cs : List Char) : String × Option String :=
  let name := cs.takeWhile (· ≠ '=')
  (String.ofList name,
    match cs.drop name.length with
    | [] => none
    | _ :: value => some (String.ofList value))

/-- The shape of an argument. -/
inductive Shape where
  /-- Two dashes alone: no options follow. -/
  | endOfOptions
  /-- A name behind two dashes, perhaps with a value. -/
  | long (name : String) (value : Option String)
  /-- A letter behind one dash. -/
  | short (letter : Char)
  /-- Anything else. -/
  | word
deriving DecidableEq, Repr

/-- The shape of an argument. -/
def shapeOf (argument : String) : Shape :=
  match argument.toList with
  | ['-', '-'] => .endOfOptions
  | '-' :: '-' :: cs => let (name, value) := splitLong cs; .long name value
  | '-' :: c :: _ => .short c
  | _ => .word

/-- The request that asks for help or for the version, once what is pending is in order. -/
def inform (s : Seen) (p : Pending) (r : Request) : Request :=
  match s.settle p with
  | .ok _ => r
  | .error e => .refuse e

/-- Refuses an option that does not exist. -/
def refuseUnknown (s : Seen) (p : Pending) (name : String) : Request :=
  let similar := mostSimilar (Flag.all.map Flag.name) name
  let used := s.usedWith p
  let used := match similar.bind Flag.ofName? with
    | some f => if used.contains f then used else used ++ [f]
    | none => used
  .refuse (.unknown ("--" ++ name) similar used)

/-- The request at the end of the arguments. -/
def finish (s : Seen) (p : Pending) : Request :=
  match s.settle p with
  | .ok s => .run ⟨s.used.contains .quiet, s.level⟩
  | .error e => .refuse e

/-- Reads arguments one after the other. -/
def readArguments (s : Seen) (p : Pending) : List String → Request
  | [] => finish s p
  | a :: as =>
    match shapeOf a with
    | .endOfOptions =>
      match as with
      | [] => finish s p
      | b :: _ => .refuse (.unknown b none [])
    | .long name value =>
      match Flag.ofName? name, value with
      | none, _ => refuseUnknown s p name
      | some .logLevel, none =>
        match s.settle p with
        | .ok s => readArguments s .option as
        | .error e => .refuse e
      | some .logLevel, some v =>
        match s.settle p with
        | .ok s =>
          match s.setLevel v with
          | .ok s => readArguments s .nothing as
          | .error e => .refuse e
        | .error e => .refuse e
      | some f, some v => .refuse (.unexpectedValue f v (s.used ≠ []))
      | some .quiet, none =>
        match s.settle p with
        | .ok s =>
          if s.used.contains .quiet then .refuse (.repeated .quiet)
          else readArguments (s.use .quiet) .nothing as
        | .error e => .refuse e
      | some .help, none => inform s p .help
      | some .version, none => inform s p .version
    | .short c =>
      if c = 'h' then inform s p .help
      else if c = 'V' then inform s p .version
      else .refuse (.unknown ("-" ++ c.toString) none [])
    | .word =>
      match p with
      | .option => readArguments s (.level a) as
      | _ => .refuse (.unknown a none [])

/-- What a list of arguments asks for. -/
def request (arguments : List String) : Request := readArguments .start .nothing arguments

end TidyTree.CommandLine
