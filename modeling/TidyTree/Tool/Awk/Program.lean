/-
TidyTree.Tool.Awk.Program — programs of patterns and actions.

A program goes through records.  For every record the actions are
carried out whose patterns it fits, before the first and after the last
one those that are meant for these times.  An action is a row of
statements, which work on values, on the fields of the record and on
tables.
-/
import TidyTree.Regex.Basic

namespace TidyTree.Tool.Awk

/-! ## 1. Expressions -/

/-- What is done with two numbers. -/
inductive Operation where
  | add
  | subtract
  | multiply
  | divide
  | remainder
  | power
deriving DecidableEq

/-- How two values are compared. -/
inductive Relation where
  | less
  | atMost
  | equal
  | unequal
  | atLeast
  | more
deriving DecidableEq

/-- The functions that every program has. -/
inductive Builtin where
  | length
  | substr
  | index
  | split
  | sub
  | gsub
  | matching
  | sprintf
  | sin
  | cos
  | atan2
  | exp
  | log
  | sqrt
  | int
  | rand
  | srand
  | lower
  | upper
  | system
  | close
  | flush
  | time
deriving DecidableEq

/-- Where the next record comes from. -/
inductive RecordSource where
  | input
  | file
  | command
deriving DecidableEq

/-- An expression. -/
inductive Expr where
  | number (x : Float)
  | text (s : String)
  | pattern (r : Regex)
  | named (name : String)
  | field (number : Expr)
  | element (table : String) (subscripts : List Expr)
  /-- The value of an expression is given to a place, perhaps after an operation with what the
  place held before. -/
  | assign (operation : Option Operation) (place value : Expr)
  /-- A place is counted up or down, and the value is what it held before that or after it. -/
  | step (before up : Bool) (place : Expr)
  | binary (operation : Operation) (a b : Expr)
  | negative (a : Expr)
  | positive (a : Expr)
  | opposite (a : Expr)
  | compared (relation : Relation) (a b : Expr)
  | fits (negated : Bool) (text pattern : Expr)
  | joined (a b : Expr)
  | both (a b : Expr)
  | either (a b : Expr)
  | choice (condition a b : Expr)
  | isIn (subscripts : List Expr) (table : String)
  | call (function : String) (arguments : List Expr)
  | builtin (function : Builtin) (arguments : List Expr)
  /-- The next record of a source, whose name is the value of an expression, perhaps for a place. -/
  | record (source : RecordSource) (name place : Option Expr)
  /-- An expression between parentheses. -/
  | grouped (a : Expr)

/-- Whether something can be given to what the expression stands for. -/
def Expr.isPlace : Expr → Bool
  | named _ | field _ | element _ _ => true
  | _ => false

/-! ## 2. Statements -/

/-- Where printed text goes to. -/
inductive Destination where
  | output
  | file (name : Expr) (appends : Bool)
  | command (text : Expr)

/-- A statement. -/
inductive Statement where
  | compute (e : Expr)
  | print (values : List Expr) (out : Destination)
  | printf (values : List Expr) (out : Destination)
  | ifElse (condition : Expr) (a b : List Statement)
  /-- A loop whose condition is tested before every round, or from the second round on; behind every
  round the last part is done. -/
  | loop (testedFirst : Bool) (condition : Option Expr) (body after : List Statement)
  | forIn (name table : String) (body : List Statement)
  | block (body : List Statement)
  | leaveLoop
  | nextRound
  | nextRecord
  | nextFile
  | exit (status : Option Expr)
  | giveBack (value : Option Expr)
  | remove (table : String) (subscripts : List Expr)

/-! ## 3. Programs -/

/-- When an action is carried out. -/
inductive Pattern where
  | begin
  | finish
  | always
  | when (condition : Expr)
  /-- From a record that passes the one condition up to one that passes the other; ranges are
  numbered. -/
  | range (number : Nat) (first last : Expr)

/-- A pattern with its action. -/
structure Rule where
  pattern : Pattern
  action : List Statement

/-- A function that a program defines. -/
structure Definition where
  parameters : List String
  body : List Statement

/-- A program. -/
structure Program where
  rules : List Rule
  functions : List (String × Definition)

end TidyTree.Tool.Awk
