/-
TidyTree.Launch — starting programs in a modelled file system.

A program is found like the system finds it, and what it does is
carried out by the shell or as one of the tools.  `launcher` gives the
behaviour of all programs under one environment.

This is one launcher among all: how programs behave is a parameter
wherever files are formatted (`Launcher`), and the theorems hold for
every launcher.  None of them depends on what this one does, nor on the
shell, the tools and the regular expressions behind it, which are there
so that a run with scripts for formatters can be computed.
-/
import TidyTree.Formatter.Process
import TidyTree.Perform

namespace TidyTree

/-- Variables with their values. -/
abbrev Environment := List (String × String)

namespace Environment

/-- The value of a variable, if it is set. -/
def value? (env : Environment) (name : String) : Option String := env.lookup name

/-- The variables with those of `more` set in addition, or anew. -/
def extend (env more : Environment) : Environment :=
  env.filter (fun v => (more.lookup v.1).isNone) ++ more

/-- The search path for programs. -/
def searchPath (env : Environment) : String := (env.value? "PATH").getD "/bin:/usr/bin"

/-- The environment in which nothing but the search path is set. -/
def standard : Environment := [("PATH", "./bin:/usr/bin:/bin")]

end Environment

/-- What was printed, as texts: what went to one stream in a row belongs together. -/
def joinPrinted : List (Stream × String) → List (Stream × String)
  | [] => []
  | (stream, text) :: rest =>
    match joinPrinted rest with
    | (next, more) :: others =>
      if next = stream then (stream, text ++ more) :: others
      else (stream, text) :: (next, more) :: others
    | [] => [(stream, text)]

/-- The numbers of the process that is started and of the one that starts it. -/
def processNumbers : Nat × Nat := (4242, 4241)

/-- What the process that is started shares with others: the streams lead to where the program
prints, and there is no input. -/
def startWorld (files : FileSystem) : Shell.World where
  files
  openings := #[⟨.null, 0, true, false, false⟩, ⟨.stream .output, 0, false, true, true⟩,
    ⟨.stream .error, 0, false, true, true⟩]
  printed := []
  lastProcess := processNumbers.1
  sent := []
  clock := 0

/-- The bits that new files do not get at the start. -/
def startMask : Nat := 0o022

/-- Runs the tool of an image to its end. -/
def runToEnd (env : Environment) (i : Shell.Image) (files : FileSystem) : Launch :=
  let narrowed := env.map fun v => (Text.narrow v.1, Text.narrow v.2)
  let start : Shell.Machine := .start (startWorld files) processNumbers.1 [processNumbers.2]
    (Text.narrow i.name) narrowed [(0, 0), (1, 1), (2, 2)] startMask []
  let job : Shell.Job := .tool i.tool (i.arguments.map Text.narrow)
  let (status, m) : WaitStatus × Shell.Machine :=
    match perform depthLimit job start with
    | .ok _ m => (.exit m.status, m)
    | .error (.killed s) m => (.kill s, m)
    | .error .exhausted m => (.kill ⟨11⟩, m)
    | .error _ m => (.exit m.status, m)
  let printed := (joinPrinted m.world.printed.reverse).map fun p => (p.1, Text.widen p.2)
  .ended status printed { m.world.files with workingDirectory := files.workingDirectory }

/-- How programs behave under an environment. -/
def launcher (env : Environment) : Launcher := fun i files =>
  let texts := i.program :: i.arguments
  if texts.any Path.hasNul then .notStarted .nulByte
  else
    match Shell.find files env.searchPath i.program i.arguments with
    | .error e => .notStarted (.os e)
    | .ok image =>
      if texts.any fun t => Shell.argumentLimit ≤ t.utf8ByteSize then
        .notStarted (.os .argumentsTooLong)
      else runToEnd env image files

end TidyTree
