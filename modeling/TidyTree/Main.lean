/-
TidyTree.Main — the program at a terminal.

What the working directory holds is read into a file system, the run is
worked out on that, and the files it changed are written back.  Nothing
is decided here.  Formatters are the scripts that the directory holds
and the tools of the standard file system; a file counts as a script
that may be run if it begins like one.
-/
import Std.Time
import TidyTree.CommandLine.Program
import TidyTree.FileSystem.Inventory
import TidyTree.FileSystem.Standard

namespace TidyTree.Terminal

/-! ## 1. Reading and writing the directory -/

/-- The changed file system, or the one before if the change is refused. -/
def keeping (fs : FileSystem) (changed : Except Errno FileSystem) : FileSystem :=
  changed.toOption.getD fs

/-- The bytes of a file, or none where it cannot be read. -/
def bytesOrNone (entry : IO.FS.DirEntry) : IO ByteArray :=
  try IO.FS.readBinFile entry.path catch _ => pure .empty

/-- A file as it is found, which may be run if it begins like a script. -/
def found (bytes : ByteArray) : FileData :=
  ⟨bytes, if bytes.toList.take 2 = "#!".toUTF8.toList then 0o755 else 0o644, none⟩

/-- The full path that a symbolic link leads to, or nothing where it leads nowhere. -/
def targetOrNothing (entry : IO.FS.DirEntry) : IO String :=
  try return toString (← IO.FS.realPath entry.path) catch _ => pure ""

/-- Puts an entry of a directory, with all below it, at a path that begins with `before`. -/
partial def load (before : String) (fs : FileSystem) (entry : IO.FS.DirEntry) : IO FileSystem := do
  let path := before ++ entry.fileName
  match (← entry.path.symlinkMetadata).type with
  | .dir =>
    (← entry.path.readDir).foldlM (load (path ++ "/")) (keeping fs (fs.makeDirectory path))
  | .file =>
    let data := found (← bytesOrNone entry)
    return keeping fs (fs.modifyFile path data id)
  | .symlink => return keeping fs (fs.create path (.leaf (.link (← targetOrNothing entry))))
  | .other => return keeping fs (fs.create path (.leaf .special))

/-- Whether an entry has to go before the one that stands there afterwards can be written. -/
def isInTheWay : Item → Option Item → Bool
  | .file _, some (.file _) => false
  | item, found => found ≠ some item

/-- Writes what has changed in the working directory. -/
def save (before after : FileSystem) : IO Unit := do
  let old := before.inventory before.workingDirectory
  let new := after.inventory after.workingDirectory
  for (path, item) in old.reverse do
    if isInTheWay item (new.lookup path) then
      if item = .directory then IO.FS.removeDir path else IO.FS.removeFile path
  for (path, item) in new do
    if old.lookup path ≠ some item then
      match item with
      | .directory => IO.FS.createDirAll path
      | .file bytes => IO.FS.writeBinFile path bytes
      | .link _ | .special => pure ()

/-! ## 2. The run -/

/-- The variables of the environment that a run looks at, as far as they are set. -/
def environment : IO Environment := do
  let settings ← ["PATH", "HOME", "CLICOLOR_FORCE", "NO_COLOR"].mapM fun name => do
    return (← IO.getEnv name).map (name, ·)
  return settings.filterMap id

/-- The time of day as lines of the log show it. -/
def timeOfDay : IO String := do
  return (← Std.Time.PlainDateTime.now).format "uuuu-MM-dd HH:mm:ss"

/-- The time since an earlier moment. -/
def since (start : Nat) : IO Duration := do
  let nanos := (← IO.monoNanosNow) - start
  return ⟨nanos / 1000000000, nanos % 1000000000⟩

/-- Runs the program in the working directory; gives the exit code. -/
def run (arguments : List String) : IO UInt32 := do
  let start ← IO.monoNanosNow
  let directory ← IO.currentDir
  let place := (Path.components (toString directory)).filter (· ≠ "")
  let files ← (← directory.readDir).foldlM (load "") (FileSystem.standard place)
  let env ← environment
  let transcript := CommandLine.program (launcher env) env arguments files
  save files transcript.files
  let now ← timeOfDay
  let clock : CommandLine.Clock := ⟨fun _ => now, ← since start⟩
  (← IO.getStderr).putStr (transcript.on .error clock)
  (← IO.getStdout).putStr (transcript.on .output clock)
  return transcript.code.toUInt32

end TidyTree.Terminal

/-- Runs the program with the arguments of the command line. -/
def main (arguments : List String) : IO UInt32 := TidyTree.Terminal.run arguments
