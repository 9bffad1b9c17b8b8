/-
TidyTree.Tool.Options — the arguments of a tool.

A table says which options a tool has.  Options may stand among the
operands, several letters behind one dash, and long names may be cut
short as long as it is clear what is meant.
-/
import TidyTree.Shell.Redirect

namespace TidyTree.Tool

open Shell

/-! ## 1. Tables -/

/-- Whether an option has a value. -/
inductive Arity where
  | none
  | required
  /-- A value may be attached. -/
  | optional
deriving DecidableEq

/-- The options of a tool.  An option is known by its letter, or by its long name if it has no
letter. -/
structure OptionTable where
  /-- The letters of options without values. -/
  plain : String
  /-- The letters of options with values. -/
  valued : String
  /-- The letters of options to which a value may be attached. -/
  loose : String
  /-- The long names, each with the option it stands for. -/
  long : List (String × String × Arity)
  /-- Whether the first operand ends the options. -/
  stops : Bool

namespace OptionTable

/-- A table of letters only. -/
def letters (plain valued : String) : OptionTable := ⟨plain, valued, "", [], false⟩

/-- The table with long names for options without values. -/
def withFlags (t : OptionTable) (names : List (String × String)) : OptionTable :=
  { t with long := t.long ++ names.map fun (n, k) => (n, k, .none) }

/-- The table with long names for options with values. -/
def withValues (t : OptionTable) (names : List (String × String)) : OptionTable :=
  { t with long := t.long ++ names.map fun (n, k) => (n, k, .required) }

/-- The table with long names for options that may have values. -/
def withLoose (t : OptionTable) (names : List (String × String)) : OptionTable :=
  { t with long := t.long ++ names.map fun (n, k) => (n, k, .optional) }

/-- Whether the option of a letter has a value; none if there is no such option. -/
def arity? (t : OptionTable) (c : Char) : Option Arity :=
  if t.plain.toList.contains c then some .none
  else if t.valued.toList.contains c then some .required
  else if t.loose.toList.contains c then some .optional
  else none

end OptionTable

/-- The options that were given, in their order, with their values, and the operands. -/
structure Given where
  options : List (String × String)
  operands : List String

namespace Given

/-- Whether an option was given. -/
def has (g : Given) (key : String) : Bool := g.options.any fun o => o.1 = key

/-- The values of an option. -/
def values (g : Given) (key : String) : List String :=
  (g.options.filter fun o => o.1 = key).map (·.2)

/-- The last value of an option. -/
def value? (g : Given) (key : String) : Option String := (g.values key).getLast?

/-- The one of some options that was given last. -/
def last? (g : Given) (keys : List String) : Option String :=
  ((g.options.filter fun o => keys.contains o.1).map (·.1)).getLast?

end Given

/-! ## 2. Reading -/

/-- A long option with the part behind the equals sign: the option it stands for and how many
values it takes, or a complaint. -/
def longOption (t : OptionTable) (name : String) : Except String (String × String × Arity) :=
  let all := t.long ++ [("help", "help", Arity.none), ("version", "version", Arity.none)]
  match all.find? fun l => l.1 = name with
  | some l => .ok l
  | none =>
    match all.filter fun l => name.toList.isPrefixOf l.1.toList with
    | [] => .error ("unrecognized option '--" ++ name ++ "'")
    | l :: more =>
      if more.all fun m => m.2 = l.2 then .ok l
      else
        .error ("option '--" ++ name ++ "' is ambiguous; possibilities:" ++
          String.join ((l :: more).map fun l => " '--" ++ l.1 ++ "'"))

/-- Reads arguments. -/
def readFrom (t : OptionTable) : (fuel : Nat) → List String → Given → Except String Given
  | 0, _, g => .ok g
  | _ + 1, [], g => .ok g
  | fuel + 1, a :: args, g =>
    match a.toList with
    | ['-', '-'] => .ok { g with operands := g.operands ++ args }
    | '-' :: '-' :: cs =>
      let name := String.ofList (cs.takeWhile (· ≠ '='))
      let value := cs.drop (name.length + 1)
      let hasValue := cs.contains '='
      match longOption t name with
      | .error e => .error e
      | .ok (full, key, arity) =>
        let add (v : String) : Given := { g with options := g.options ++ [(key, v)] }
        match arity, hasValue, args with
        | .none, true, _ => .error ("option '--" ++ full ++ "' doesn't allow an argument")
        | .none, false, _ => readFrom t fuel args (add "")
        | .optional, _, _ => readFrom t fuel args (add (String.ofList value))
        | .required, true, _ => readFrom t fuel args (add (String.ofList value))
        | .required, false, v :: rest => readFrom t fuel rest (add v)
        | .required, false, [] => .error ("option '--" ++ full ++ "' requires an argument")
    | '-' :: c :: cs =>
      let add (v : String) : Given := { g with options := g.options ++ [(c.toString, v)] }
      match t.arity? c with
      | none => .error ("invalid option -- '" ++ c.toString ++ "'")
      | some .none =>
        if cs.isEmpty then readFrom t fuel args (add "")
        else readFrom t fuel (String.ofList ('-' :: cs) :: args) (add "")
      | some .optional => readFrom t fuel args (add (String.ofList cs))
      | some .required =>
        if ¬ cs.isEmpty then readFrom t fuel args (add (String.ofList cs))
        else
          match args with
          | v :: rest => readFrom t fuel rest (add v)
          | [] => .error ("option requires an argument -- '" ++ c.toString ++ "'")
    | _ =>
      if t.stops then .ok { g with operands := g.operands ++ a :: args }
      else readFrom t fuel args { g with operands := g.operands ++ [a] }

/-- Reads the arguments of a tool. -/
def OptionTable.read (t : OptionTable) (args : List String) : Except String Given :=
  readFrom t (args.foldl (fun n a => n + a.length) (args.length + 1)) args ⟨[], []⟩

/-! ## 3. Complaints -/

/-- Complains like tools do: the name stands in front. -/
def complain (text : String) : Act Unit := do say ((← get).name ++ ": " ++ text ++ "\n")

/-- Complains and tells where help is to be found. -/
def misused (text : String) : Act Unit := do
  complain text
  say ("Try '" ++ (← get).name ++ " --help' for more information.\n")

/-- Leaves a tool with a status. -/
def stop {α : Type} (status : Nat) : Act α := failWith status

/-- Complains and leaves the tool. -/
def refuse {α : Type} (status : Nat) (text : String) : Act α := do
  complain text
  stop status

/-- Complains about how the tool is used and leaves it. -/
def refuseUse {α : Type} (status : Nat) (text : String) : Act α := do
  misused text
  stop status

/-- Reads the arguments of a tool; if they cannot be understood the tool ends with the status
`refusal`, and if they ask for help it ends at once. -/
def given (t : OptionTable) (refusal : Nat) (args : List String) : Act Given := do
  match t.read args with
  | .error e => refuseUse refusal e
  | .ok g => if g.has "help" ∨ g.has "version" then stop 0 else return g

/-! ## 4. Files -/

/-- A character that cannot be printed, as the letter or the octal digits behind a backslash. -/
def escapedChar (c : Char) : String :=
  match [('\n', "n"), ('\t', "t"), ('\r', "r"), ('\x07', "a"), ('\x08', "b"), ('\x0b', "v"),
    ('\x0c', "f")].lookup c with
  | some t => "\\" ++ t
  | none =>
    let n := c.toNat
    "\\" ++ toString (n / 64) ++ toString (n / 8 % 8) ++ toString (n % 8)

/-- Whether a character can be printed. -/
def isPrintable (c : Char) : Bool := 32 ≤ c.toNat && c.toNat < 127

/-- A text from within quotes up to their end.  Single quotes stand around all but the quotes
themselves and what cannot be printed; `escaping` says that the quotes begin with a dollar sign. -/
def quotedFrom : (escaping : Bool) → List Char → String
  | _, [] => "'"
  | _, '\'' :: cs => "'\\''" ++ quotedFrom false cs
  | escaping, c :: cs =>
    if isPrintable c then (if escaping then "''" else "") ++ c.toString ++ quotedFrom false cs
    else (if escaping then "" else "'$'") ++ escapedChar c ++ quotedFrom true cs

/-- Whether the character means the same between double quotes as by itself. -/
def isPlainSign (c : Char) : Bool := c.isAlphanum || "%+,-./:]_@ '".toList.contains c

/-- A name between quotes, as complaints show it.  Double quotes are enough for one with single
quotes and without signs. -/
def quoted (s : String) : String :=
  let cs := s.toList
  let isPlain : Bool := match cs with
    | '#' :: rest | '~' :: rest => rest.all isPlainSign
    | _ => cs.all isPlainSign
  if cs.contains '\'' ∧ isPlain then "\"" ++ s ++ "\"" else "'" ++ quotedFrom false cs

/-- The characters for which a name has to be quoted. -/
def shellSigns : List Char :=
  [' ', '!', '"', '$', '&', '\'', '(', ')', '*', ':', ';', '<', '=', '>', '?', '[', '\\', '^',
    '\x60', '|']

/-- A name, between quotes only if it could not be read back otherwise. -/
def shown (s : String) : String :=
  let cs := s.toList
  if cs.isEmpty ∨ cs.any (fun c => !isPrintable c || shellSigns.contains c) ∨
    cs.head? = some '~' ∨ cs.head? = some '#' ∨ cs = ['\x7b'] ∨ cs = ['\x7d'] then quoted s
  else s

/-- What an open file still holds. -/
def openedText (n : Nat) : Act (Except Errno String) := do
  let m ← get
  match m.world.openings[n]? with
  | none => return .error ⟨9⟩
  | some o => return (m.world.remaining o).map Text.ofBytes

/-- What the file at a path holds. -/
def fileText (path : String) : Act (Except Errno String) := do
  match ← openFile path .read with
  | .error e => return .error e
  | .ok n => openedText n

/-- What an operand holds: a dash stands for the input. -/
def inputText (operand : String) : Act (Except Errno String) :=
  if operand = "-" then readRest 0 else fileText operand

/-- What is left of the input. -/
def standardInput : Act String := do return (← readRest 0).toOption.getD ""

/-- Prints a text; gives the status. -/
def printAll (text : String) : Act Nat := do
  match ← tryWrite 1 text with
  | none => return 0
  | some e =>
    complain ("write error: " ++ e.text)
    return 1

/-- The parts of a text that end in a character, without it. -/
def records (ending : Char) (s : String) : List String :=
  if s = "" then []
  else
    let parts := s.splitOn ending.toString
    if parts.getLast? = some "" then parts.dropLast else parts

/-- The lines of a text, without their ends. -/
def lines (s : String) : List String := records '\n' s

/-- Whether the last line has no end. -/
def isOpenEnded (s : String) : Bool := s ≠ "" && s.toList.getLast? ≠ some '\n'

/-- The lines of a text with their ends. -/
def fullLines (s : String) : List String :=
  match lines s with
  | [] => []
  | ls =>
    if isOpenEnded s then ls.dropLast.map (· ++ "\n") ++ [ls.getLastD ""] else ls.map (· ++ "\n")

end TidyTree.Tool
