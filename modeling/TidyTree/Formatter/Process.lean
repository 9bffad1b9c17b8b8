/-
TidyTree.Formatter.Process — a formatter that starts a program on each
file.

How programs behave is a parameter, the `Launcher`.  A program that
could not be started has changed nothing: its `Launch` has no file
system to put in the place of the old one.
-/
import TidyTree.Config
import TidyTree.Formatter

namespace TidyTree

/-! ## 1. Starting programs -/

/-- What comes of starting a program. -/
inductive Launch where
  /-- It could not be started. -/
  | notStarted (error : SystemError)
  /-- It ran to its end, printed something and left a file system behind. -/
  | ended (status : WaitStatus) (printed : List (Stream × String)) (files : FileSystem)

/-- How programs behave: what comes of each invocation in each file system. -/
abbrev Launcher := Invocation → FileSystem → Launch

/-! ## 2. The formatter -/

/-- A program that formats a file given a flag and the path of the file. -/
structure Command where
  program : String
  flag : String
deriving DecidableEq, Repr

namespace Command

/-- The command of a configuration. -/
def ofConfig (c : Config) : Command := ⟨c.program, c.inPlaceFlag⟩

/-- The command that is used when nothing is set. -/
def default : Command := ofConfig Config.default

/-- The invocation of the command on a file. -/
def invocation (c : Command) (path : String) : Invocation := ⟨c.program, [c.flag, path]⟩

/-- The record before a file is formatted. -/
def starting (path : String) : Record := ⟨.debug, .formatter, "Formatting " ++ path⟩

/-- The record after a file was formatted. -/
def finished (c : Command) (path : String) : Record :=
  ⟨.debug, .formatter, c.program ++ " finished on " ++ path⟩

/-- The formatter that runs the command on each file.  It has no state of its own. -/
def formatter (c : Command) (launch : Launcher) : Formatter Unit := fun path state files =>
  let before : List Sign := [.record (starting path), .launch (c.invocation path)]
  match launch (c.invocation path) files with
  | .notStarted e =>
    { outcome := .error (.spawn c.program path e), signs := before, state, files }
  | .ended status printed files =>
    let signs := before ++ printed.map fun (stream, text) => .printed stream text
    if status.isSuccess then
      { outcome := .ok (), signs := signs ++ [.record (c.finished path)], state, files }
    else
      { outcome := .error (.failed c.program path status), signs, state, files }

end Command

end TidyTree
