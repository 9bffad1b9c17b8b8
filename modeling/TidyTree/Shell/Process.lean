/-
TidyTree.Shell.Process — starting programs from a process.

A program is looked for along the search path.  A file that may be run
but is neither a tool nor names an interpreter is taken as a script of
the shell.  A program gets the variables that are passed on, the
descriptors, and the signals that are not to be heeded.
-/
import TidyTree.Shell.Image
import TidyTree.Shell.Signals

namespace TidyTree.Shell

/-! ## 1. Looking for programs -/

/-- The path along which programs are looked for if none is set. -/
def defaultSearchPath : String := "/usr/local/sbin:/usr/local/bin:/usr/sbin:/usr/bin:/sbin:/bin"

/-- The path along which the process looks for programs. -/
def Machine.searchPath (m : Machine) : String := (m.value? "PATH").getD defaultSearchPath

/-- Whether a file that can be run is at the path; the error otherwise. -/
def runnableAt (fs : FileSystem) (path : String) : Option Errno :=
  match fs.resolve path with
  | .ok (.file id) => if (fs.data id).executable then none else some .accessDenied
  | .ok _ => some .accessDenied
  | .error e => some e

/-- The first path at which a program of that name can be run. -/
def programPath (fs : FileSystem) (searchPath name : String) : Except Errno String :=
  let rec go (worst : Errno) : List String → Except Errno String
    | [] => .error worst
    | p :: ps =>
      match runnableAt fs (Text.widen p) with
      | none => .ok p
      | some e => go (if e = .noEntry ∨ e = .notDirectory then worst else e) ps
  go .noEntry (candidates searchPath name)

/-- Remembers where a program was found, unless it is named by its path. -/
def rememberProgram (name path : String) : Act Unit :=
  modify fun m => { m with found :=
    if name.toList.contains '/' || (m.found.lookup name).isSome then m.found
    else (name, path) :: m.found }

/-- The length at which one argument of a program is too long. -/
def argumentLimit : Nat := 131072

/-- The program at a path; a text that names no interpreter is a script of the shell. -/
def imageAt (fs : FileSystem) (name path : String) (arguments : List String) :
    Except Errno Image :=
  let finish (i : Image) : Image :=
    ⟨i.tool, Text.narrow i.name, i.arguments.map Text.narrow ++ arguments⟩
  if (name :: arguments).any fun a => argumentLimit ≤ a.length then .error .argumentsTooLong
  else
    match load fs scriptDepth (Text.widen name) (Text.widen path) [] with
    | .ok i => .ok (finish i)
    | .error e =>
      if e = .execFormat then
        (load fs scriptDepth "/bin/sh" "/bin/sh" [Text.widen path]).map finish
      else .error e

/-- The program that a name stands for. -/
def findImage (fs : FileSystem) (searchPath name : String) (arguments : List String) :
    Except Errno Image :=
  if name.toList.contains '/' then imageAt fs name name arguments
  else
    let rec go (worst : Errno) : List String → Except Errno Image
      | [] => .error worst
      | p :: ps =>
        match imageAt fs name p arguments with
        | .ok i => .ok i
        | .error e => go (if e = .noEntry ∨ e = .notDirectory then worst else e) ps
    go .noEntry (candidates searchPath name)

/-! ## 2. Starting -/

/-- The process at the start of a program. -/
def Machine.begin (m : Machine) (name : String) (environment : List (String × String)) : Machine :=
  .start m.world m.identity m.ancestors name environment m.descriptors m.mask
    (m.traps.filter fun t => t.2 = "")

/-- Starts a program in a process of its own and waits for its end. -/
def spawn (perform : Performer) (environment : List (String × String)) (i : Image) : Act End :=
  inProcess (fun m => m.begin i.name environment) (perform (.tool i.tool i.arguments))

/-- Puts a program in the place of the process. -/
def become {α : Type} (perform : Performer) (environment : List (String × String)) (i : Image) :
    Act α := do
  modify fun m => m.begin i.name environment
  perform (.tool i.tool i.arguments)
  throw .exiting

/-- The variables that a tool has got, in the order in which it got them. -/
def Machine.inherited (m : Machine) : List (String × String) :=
  m.bindings.filterMap fun (n, v) => v.value.map fun value => (n, value)

/-- What a command prints that a tool has the shell carry out. -/
def commandOutput (perform : Performer) (command : String) : Act String := do
  let n ← addOpening ⟨.pipe .empty, 0, true, true, false⟩
  let _ ← inProcess (fun m =>
    let started := m.begin "sh" m.inherited
    { started with descriptors := (1, n) :: m.descriptors.filter fun d => d.1 ≠ 1 })
    (perform (.tool "sh" ["-c", command]))
  match (← get).world.openings[n]? with
  | some ⟨.pipe b, _, _, _, _⟩ => return Text.ofBytes b
  | _ => return ""

/-- The status of a shell that could not start a program. -/
def startFailure (e : Errno) : Nat :=
  if e = .noEntry ∨ e = .notDirectory ∨ e = .linkLoop ∨ e = .nameTooLong then 127 else 126

/-- What a shell says about a program that it could not start. -/
def startComplaint (e : Errno) : String :=
  if e = .noEntry ∨ e = .notDirectory then "not found" else e.text

end TidyTree.Shell
