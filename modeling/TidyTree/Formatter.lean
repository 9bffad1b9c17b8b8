/-
TidyTree.Formatter — what formats one file.

A formatter is a machine: given a path, its own state and the file
system it answers with an outcome, a new state and a new file system,
and what could be seen while it worked.  Nothing is assumed about it;
its answer may depend on everything that happened before.
-/
import TidyTree.FormatError
import TidyTree.FileSystem.Basic
import TidyTree.Log

namespace TidyTree

/-- Where a program prints. -/
inductive Stream where
  | output
  | error
deriving DecidableEq, Repr

/-- A program that is to be started, with its arguments. -/
structure Invocation where
  program : String
  arguments : List String
deriving DecidableEq, Repr

/-- What can be seen of a formatter while it works on one file. -/
inductive Sign where
  /-- It notes a record in the log. -/
  | record (r : Record)
  /-- It asks the system to start a program. -/
  | launch (i : Invocation)
  /-- A program that it started prints something. -/
  | printed (stream : Stream) (text : String)
deriving DecidableEq, Repr

/-- The answer of a formatter asked to format one file. -/
structure Reply (σ : Type) where
  outcome : Except FormatError Unit
  signs : List Sign
  state : σ
  files : FileSystem

/-- A formatter with states of type `σ`. -/
abbrev Formatter (σ : Type) := (path : String) → σ → FileSystem → Reply σ

end TidyTree
