/-
TidyTree.Tool.Edit.Script — scripts that edit texts line by line.

A script is a row of commands, each for the lines that its guard lets
pass.  Blocks and labels are places in the row.
-/
import TidyTree.Regex.Basic

namespace TidyTree.Tool.Edit

/-! ## 1. Guards -/

/-- A regular expression with the way in which it is to be taken. -/
structure Sought where
  regex : Regex
  groups : Nat
  ignoreCase : Bool
  multiline : Bool

/-- What picks lines. -/
inductive Address where
  | line (n : Nat)
  /-- Every so many lines from the first on. -/
  | every (first step : Nat)
  | last
  /-- The lines in which something is found, or what was looked for last. -/
  | holding (s : Option Sought)

/-- Where a range of lines ends. -/
inductive RangeEnd where
  | picked (a : Address)
  /-- So many lines later. -/
  | later (n : Nat)
  /-- At the next line whose number is a multiple. -/
  | multiple (n : Nat)

/-- For which lines a command is. -/
structure Guard where
  first : Option Address
  last : Option RangeEnd
  negated : Bool

/-! ## 2. Replacements -/

/-- How letters are changed. -/
inductive LetterCase where
  | kept | upper | lower
deriving DecidableEq

/-- A piece of a replacement: a text and the text of a group behind it. -/
structure Piece where
  text : String
  group : Option Nat
  letters : LetterCase
  /-- What happens to the first letter, if that is something else. -/
  firstLetter : Option LetterCase

/-- What is put in the place of what was found. -/
structure Substitution where
  sought : Option Sought
  pieces : List Piece
  everywhere : Bool
  /-- At which of the places where it is found one begins to replace. -/
  from? : Option Nat
  printed : Bool
  /-- Whether the result is carried out as a command. -/
  evaluated : Bool
  output : Option Nat

/-! ## 3. Commands -/

/-- When a jump is made. -/
inductive JumpKind where
  | always | replaced | notReplaced
deriving DecidableEq

/-- What a command does.  Files to write to are known by their numbers. -/
inductive Command where
  /-- The commands up to a place are passed over unless the guard lets the line pass. -/
  | block (past : Nat)
  | nothing
  | jump (kind : JumpKind) (target : Nat)
  | append (text : String)
  | insert (text : String)
  | change (text : String)
  | delete
  | deleteFirst
  | execute (command : String)
  | fileName
  | lineNumber
  | fetch
  | fetchAppend
  | hold
  | holdAppend
  | exchange
  | listed (width : Option Nat)
  | next
  | nextAppend
  | print
  | printFirst
  | quit (quiet : Bool) (status : Nat)
  | readFile (path : String)
  | readLine (path : String)
  | write (output : Nat)
  | writeFirst (output : Nat)
  | substitute (s : Substitution)
  | exchangeLetters (table : List (Char × Char))
  | clear

/-- A command with its guard. -/
structure Step where
  guard : Guard
  command : Command

/-- A script that was read. -/
structure Script where
  steps : Array Step
  /-- The paths of the files to write to. -/
  outputs : List String
  /-- Whether lines are printed only where the script says so. -/
  quiet : Bool

end TidyTree.Tool.Edit
