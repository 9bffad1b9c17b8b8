/-
TidyTree.Perform — doing what a process is asked to do.

Here the ends meet: commands start programs, programs are shells and
tools, and these carry out commands again.  The fuel bounds how deep
this goes.
-/
import TidyTree.Shell.Start
import TidyTree.Tool.Table

namespace TidyTree

open Shell

/-- Carries out a tool. -/
def runTool (perform : Performer) (name : String) (args : List String) : Act Unit := do
  if ["sh", "dash", "bash"].contains name then runShell perform args
  else
    match Tool.plainTools.lookup name, Tool.startingTools.lookup name with
    | some tool, _ => setStatus (← tool args)
    | none, some tool => setStatus (← tool perform args)
    | none, none => setStatus 127

/-- Does one job. -/
def performWith (perform : Performer) : Job → Act Unit
  | .script s tested last => carryOut perform s tested last
  | .part s tested => upToEnd perform (carryOut perform s tested true)
  | .source text tested last => carryOutText perform false text tested last
  | .tool name args => runTool perform name args

/-- Does jobs, up to a depth. -/
def perform : (depth : Nat) → Performer
  | 0 => fun _ => throw .exhausted
  | depth + 1 => performWith (perform depth)

/-- How deep jobs may be nested in one another. -/
def depthLimit : Nat := 20000

end TidyTree
