/-
TidyTree.Shell.Image — which program a path starts.

A file can be started if it may be run and is either a tool of the
system or a text whose first line names an interpreter.  A script is
started by starting its interpreter, which may again be a script, with
the path of the script in front of the arguments.
-/
import TidyTree.FileSystem.Resolve

namespace TidyTree.Shell

/-! ## 1. First lines -/

/-- A tool of the system with the name it is started under and its arguments. -/
structure Image where
  tool : String
  name : String
  arguments : List String
deriving DecidableEq, Repr

/-- How many bytes of a script the system reads. -/
def headSize : Nat := 256

/-- Whether a byte separates the words of the first line of a script. -/
def isGap (b : UInt8) : Bool := b = 32 || b = 9

/-- Whether a byte ends a word of the first line of a script. -/
def isGapOrEnd (b : UInt8) : Bool := isGap b || b = 0

/-- The interpreter and its argument in a line. -/
def interpreterIn? (line : List UInt8) : Option (List UInt8 × List UInt8) :=
  let line := ((line.dropWhile isGap).reverse.dropWhile isGap).reverse
  let path := line.takeWhile fun b => !isGapOrEnd b
  let rest := line.drop path.length
  let argument := if rest.head? = some 0 then [] else
    (rest.dropWhile isGap).takeWhile (· ≠ 0)
  if path.isEmpty then none else some (path, argument)

/-- The interpreter that a script names and the argument it gives it, if the bytes are a script.  A
line that does not end within what the system reads is used only if the interpreter does. -/
def interpreter? (bytes : ByteArray) : Option (String × List String) :=
  let front := (bytes.extract 0 headSize).toList
  let head := front ++ List.replicate (headSize - front.length) 0
  if head.take 2 ≠ [35, 33] then none
  else
    let body := head.drop 2
    let line? :=
      if body.contains 10 then some (body.takeWhile (· ≠ 10))
      else if (body.dropWhile isGap).any isGapOrEnd then some (body.take (headSize - 3))
      else none
    (line?.bind interpreterIn?).map fun (path, argument) =>
      let text (bs : List UInt8) : String := (String.fromUTF8? (ByteArray.mk bs.toArray)).getD ""
      (text path, if argument.isEmpty then [] else [text argument])

/-! ## 2. Loading -/

/-- The tool that is started by starting the file at a path under a name, through at most `depth`
scripts. -/
def load (fs : FileSystem) : (depth : Nat) → (name path : String) → List String →
    Except Errno Image
  | depth, name, path, arguments =>
    match fs.resolve path with
    | .error e => .error e
    | .ok (.directory _ _ _) => .error .accessDenied
    | .ok .special => .error .accessDenied
    | .ok (.file id) =>
      let d := fs.data id
      if d.executable = false then .error .accessDenied
      else
        match depth with
        | 0 => .error .linkLoop
        | depth + 1 =>
          match d.native with
          | some tool => .ok ⟨tool, name, arguments⟩
          | none =>
            match interpreter? d.bytes with
            | some (interpreter, extra) =>
              load fs depth interpreter interpreter (extra ++ path :: arguments)
            | none => .error .execFormat

/-- How many scripts the system goes through to find the tool to start. -/
def scriptDepth : Nat := 6

/-- The entries of a search path, separated by colons. -/
def searchEntries (path : String) : List String := path.splitOn ":"

/-- The paths at which a program of that name may be found. -/
def candidates (searchPath program : String) : List String :=
  (searchEntries searchPath).map fun e => if e = "" then program else e ++ "/" ++ program

/-- Tries the paths of a program in turn.  A path at which nothing is found is passed over, one
that may not be run too, but is remembered; any other failure ends the search. -/
def tryPaths (start : String → Except Errno Image) : (denied : Bool) → (last : Errno) →
    List String → Except Errno Image
  | denied, last, [] => .error (if denied then .accessDenied else last)
  | denied, _, p :: ps =>
    match start p with
    | .ok i => .ok i
    | .error e =>
      if e = .accessDenied then tryPaths start true e ps
      else if [Errno.noEntry, .notDirectory, ⟨116⟩, ⟨19⟩, ⟨110⟩].contains e then
        tryPaths start denied e ps
      else .error e

/-- Finds the tool to start for a program name: a name with a slash is a path, any other name is
looked up along the search path, where an empty entry is the working directory. -/
def find (fs : FileSystem) (searchPath program : String) (arguments : List String) :
    Except Errno Image :=
  if program = "" then .error .noEntry
  else if program.toList.contains '/' then load fs scriptDepth program program arguments
  else if Path.isNameTooLong program then .error .nameTooLong
  else
    tryPaths (fun p => load fs scriptDepth program p arguments) false .noEntry
      (candidates searchPath program)

end TidyTree.Shell
