/-
TidyTree.Shell.Script — what a shell script says, as a tree.

A word is a row of parts: characters, each with a mark that says whether
it was quoted, and the substitutions among them.  Commands are built
from words.  Lines are kept where a complaint may name them.
-/

namespace TidyTree.Shell

/-! ## 1. Words -/

/-- What is done with the value of a parameter. -/
inductive Form where
  | plain
  | length
  /-- Another text if the parameter is unset; with `orEmpty` also if it is empty. -/
  | orElse (orEmpty : Bool)
  /-- As before, and the parameter gets that text. -/
  | orAssign (orEmpty : Bool)
  /-- The shell ends with a message if the parameter is unset. -/
  | orFail (orEmpty : Bool)
  /-- Another text if the parameter is set. -/
  | instead (orEmpty : Bool)
  /-- Without a beginning or an end that fits a pattern. -/
  | strip (atEnd longest : Bool)
  /-- No substitution of this kind exists. -/
  | bad
deriving DecidableEq, Repr

/-- What a redirection does with its descriptor. -/
inductive Redirection where
  | read
  | write
  /-- Writes even where existing files are protected. -/
  | overwrite
  | append
  | readWrite
  | copyInput
  | copyOutput
  /-- A here-document, by its number. -/
  | document (number : Nat)
deriving DecidableEq, Repr

mutual

/-- A part of a word. -/
inductive Part where
  | char (c : Char) (quoted : Bool)
  /-- Quotes stood here, so that there is a field even if nothing stands in it. -/
  | mark
  | parameter (name : String) (form : Form) (word : List Part) (quoted : Bool)
  /-- What commands print. -/
  | command (body : Script) (quoted : Bool)
  /-- The value of an expression. -/
  | arithmetic (expression : List Part) (quoted : Bool)

/-- A redirection of a descriptor. -/
inductive Redirect where
  | make (descriptor : Nat) (action : Redirection) (word : List Part)

/-- A variable with the word for its value. -/
inductive Assign where
  | make (name : String) (word : List Part)

/-- A word as it is written. -/
inductive Word where
  | make (parts : List Part)

/-- The patterns of a selection with their command. -/
inductive Clause where
  | make (patterns : List Word) (body : Script)

/-- A command. -/
inductive Script where
  | nothing
  /-- Assignments, words and redirections. -/
  | simple (line : Nat) (assigns : List Assign) (words : List Word) (redirects : List Redirect)
  /-- Commands of which each reads what the one before prints. -/
  | pipeline (parts : List Script)
  /-- A command that is not waited for. -/
  | background (line : Nat) (body : Script)
  /-- A command whose success is turned around. -/
  | negated (body : Script)
  /-- The second command is carried out if the first one succeeds. -/
  | both (first second : Script)
  /-- The second command is carried out if the first one fails. -/
  | either (first second : Script)
  /-- Commands one after the other. -/
  | sequence (parts : List Script)
  | choose (condition body otherwise : Script)
  /-- A command repeated while a condition holds, or until it does. -/
  | repeated (untilTrue : Bool) (condition body : Script)
  /-- A command for each of some words, or for each parameter. -/
  | forEach (line : Nat) (name : String) (words : Option (List Word)) (body : Script)
  /-- The command of the first pattern that a word fits. -/
  | select (line : Nat) (word : Word) (clauses : List Clause)
  /-- A command in a process of its own. -/
  | subshell (line : Nat) (body : Script) (redirects : List Redirect)
  /-- A compound command with redirections. -/
  | redirected (line : Nat) (body : Script) (redirects : List Redirect)
  /-- A command that gets a name. -/
  | define (line : Nat) (name : String) (body : Script)

end

instance : Inhabited Script := ⟨.nothing⟩

instance : Inhabited Part := ⟨.mark⟩

/-- The parts of a word. -/
def Word.parts : Word → List Part
  | .make parts => parts

/-- A character that stands for itself, if the part is one. -/
def Part.bare? : Part → Option Char
  | .char c false => some c
  | _ => none

/-- The text of a word that is written without quotes and substitutions. -/
def literal? (parts : List Part) : Option String := (parts.mapM Part.bare?).map String.ofList

end TidyTree.Shell
