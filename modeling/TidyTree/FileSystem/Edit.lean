/-
TidyTree.FileSystem.Edit — changing a file system.

Each operation gives the changed file system or the error with which
the system refuses it.  Writing follows symbolic links, also one whose
target is still to be made; removing and renaming never follow the last
one.
-/
import TidyTree.FileSystem.Resolve

namespace TidyTree.FileSystem

/-! ## 1. Entries -/

/-- Puts a node at a spot where nothing stands. -/
def put (fs : FileSystem) (s : Spot) (node : Node) : FileSystem :=
  fs.mapAt s.place fun l => l.add s.name node

/-- Takes away what stands at a spot. -/
def take (fs : FileSystem) (s : Spot) : FileSystem :=
  fs.mapAt s.place fun l => l.erase s.name

/-- Puts a node at the spot of a path, where nothing may stand. -/
def create (fs : FileSystem) (path : String) (node : Node) : Except Errno FileSystem :=
  match fs.locate path with
  | .error e => .error e
  | .ok s =>
    match fs.at? s, node with
    | some _, _ => .error .alreadyThere
    | none, .leaf _ => if s.asDirectory then .error .noEntry else .ok (fs.put s node)
    | none, .dir _ _ => .ok (fs.put s node)

/-- Makes an empty directory. -/
def makeDirectory (fs : FileSystem) (path : String) : Except Errno FileSystem :=
  fs.create path (.dir none .nil)

/-- The paths that lead to a path step by step, the path itself last. -/
def stepPaths (path : String) : List String :=
  let parts := Path.components path
  ((List.range parts.length).map fun n => "/".intercalate (parts.take (n + 1))).filter (· ≠ "")

/-- Makes a directory and those above it, as far as they are missing. -/
def makeDirectories (fs : FileSystem) (path : String) : Except Errno FileSystem :=
  (stepPaths path).foldlM (fun fs p => if fs.isDirectory p then .ok fs else fs.makeDirectory p) fs

/-- Makes the directories in which the entry at a path is to stand. -/
def makeParents (fs : FileSystem) (path : String) : Except Errno FileSystem :=
  fs.makeDirectories (Path.splitLast (Path.withoutEndSlashes path)).1

/-! ## 2. Files -/

/-- Replaces the content of a file. -/
def setData (fs : FileSystem) (id : Nat) (d : FileData) : FileSystem :=
  { fs with contents := fs.contents.set id d }

/-- Makes a new file at a spot. -/
def addFile (fs : FileSystem) (s : Spot) (d : FileData) : FileSystem :=
  { fs.put s (.leaf (.file fs.contents.length)) with contents := fs.contents ++ [d] }

/-- The spot at which writing to a path makes a new file: that of the path, or where the symbolic
links standing there lead. -/
def newSpot (fs : FileSystem) : (links : Nat) → List String → String → Except Errno Spot
  | 0, _, _ => .error .linkLoop
  | links + 1, here, path =>
    match fs.locateFrom here path with
    | .error e => .error e
    | .ok s =>
      match fs.at? s with
      | some (.leaf (.link target)) => fs.newSpot links s.place target
      | _ => if s.asDirectory then .error .isDirectory else .ok s

/-- Writes to the file that a path leads to, which is made from `fresh` if it is missing; `f` gives
the new content from the old one. -/
def modifyFile (fs : FileSystem) (path : String) (fresh : FileData) (f : FileData → FileData) :
    Except Errno FileSystem :=
  match fs.resolve path with
  | .ok (.file id) => .ok (fs.setData id (f (fs.data id)))
  | .ok .special => .ok fs
  | .ok (.directory _ _ _) => .error .isDirectory
  | .error e =>
    if e = .noEntry then
      match fs.newSpot linkLimit fs.workingDirectory path with
      | .ok s => .ok (fs.addFile s (f fresh))
      | .error e => .error e
    else .error e

/-- Changes the mode of the file that a path leads to. -/
def setMode (fs : FileSystem) (path : String) (mode : Nat → Nat) : Except Errno FileSystem :=
  match fs.resolve path with
  | .ok (.file id) => .ok (fs.setData id { fs.data id with mode := mode (fs.data id).mode })
  | .ok _ => .ok fs
  | .error e => .error e

/-- Makes a second entry for what stands at a path. -/
def hardLink (fs : FileSystem) (existing path : String) : Except Errno FileSystem :=
  match fs.locate existing with
  | .error e => .error e
  | .ok s =>
    match fs.at? s with
    | none => .error .noEntry
    | some (.dir _ _) => .error ⟨1⟩
    | some node => fs.create path node

/-! ## 3. Removing and renaming -/

/-- Removes an entry that is not a directory. -/
def unlink (fs : FileSystem) (path : String) : Except Errno FileSystem :=
  match fs.locate path with
  | .error e => .error e
  | .ok s =>
    match fs.at? s with
    | none => .error .noEntry
    | some (.dir _ _) => .error .isDirectory
    | some (.leaf _) => if s.asDirectory then .error .notDirectory else .ok (fs.take s)

/-- Removes an empty directory. -/
def removeDirectory (fs : FileSystem) (path : String) : Except Errno FileSystem :=
  match fs.locate path with
  | .error e => .error e
  | .ok s =>
    match fs.at? s with
    | none => .error .noEntry
    | some (.dir _ inside) => if inside.isEmpty then .ok (fs.take s) else .error .notEmpty
    | some (.leaf _) => .error .notDirectory

/-- Removes an entry, a directory with all it holds. -/
def removeTree (fs : FileSystem) (path : String) : Except Errno FileSystem :=
  match fs.locate path with
  | .error e => .error e
  | .ok s => if (fs.at? s).isSome then .ok (fs.take s) else .error .noEntry

/-- Whether two nodes are the same file. -/
def sameFile : Node → Node → Bool
  | .leaf (.file a), .leaf (.file b) => a = b
  | _, _ => false

/-- Moves an entry to another path, over what stands there if that can be replaced. -/
def rename (fs : FileSystem) (path new : String) : Except Errno FileSystem :=
  match fs.locate path with
  | .error e => .error e
  | .ok s =>
    match fs.at? s with
    | none => .error .noEntry
    | some node =>
      match fs.locate new with
      | .error e => .error e
      | .ok t =>
        if s.place = t.place ∧ s.name = t.name then .ok fs
        else
          match node, fs.at? t with
          | .dir _ _, some (.leaf _) => .error .notDirectory
          | .leaf _, some (.dir _ _) => .error .isDirectory
          | .dir _ _, old =>
            if (s.place ++ [s.name]).isPrefixOf t.place then .error .invalid
            else
              match old with
              | some (.dir _ inside) =>
                if inside.isEmpty then .ok ((fs.take t).take s |>.put t node)
                else .error .notEmpty
              | _ => .ok ((fs.take s).put t node)
          | .leaf _, some old =>
            if sameFile node old then .ok fs else .ok ((fs.take t).take s |>.put t node)
          | .leaf _, none =>
            if t.asDirectory then .error .notDirectory else .ok ((fs.take s).put t node)

end TidyTree.FileSystem
