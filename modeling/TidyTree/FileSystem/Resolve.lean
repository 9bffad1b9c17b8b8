/-
TidyTree.FileSystem.Resolve — what a path leads to.

A path is followed component by component from the root or from the
working directory.  A symbolic link puts its target in front of the
components still to go; the system follows forty of them on one path
and then gives up.  `follow` is the walk between two links, recursive
on the components, and `resolveFrom` counts the links.

A path is followed through directories, not into their lists of entries,
so the fault of a directory, which is of opening only, neither stops a
path nor changes what it leads to.
-/
import TidyTree.FileSystem.Basic

namespace TidyTree

/-- What a path leads to. -/
inductive Resolved where
  /-- A directory, by the chain of names that leads to it, with its fault and its entries. -/
  | directory (place : List String) (fault : Option Errno) (inside : Listing)
  /-- A regular file, by its number. -/
  | file (id : Nat)
  /-- Anything else. -/
  | special
deriving DecidableEq, Repr

namespace FileSystem

/-! ## 1. Following components -/

/-- Where a path starts: at the root if it is absolute, else at `place`. -/
def startOf (path : String) (place : List String) : List String :=
  if Path.isAbsolute path then [] else place

/-- Follows components from a place up to the first symbolic link, which is handed to `onLink`
with the place it stands in and the components that are left.  The fault of a directory on the way
is passed over: it is of opening the directory, and the permission to search one is not modelled.
A directory that may not be searched is one with a fault and without entries, in which a path finds
nothing. -/
def follow (fs : FileSystem) (onLink : String → List String → List String → Except Errno Resolved) :
    List String → List String → Except Errno Resolved
  | [], place =>
    match fs.directory? place with
    | some (fault, inside) => .ok (.directory place fault inside)
    | none => .error .noEntry
  | c :: cs, place =>
    if c = "" ∨ c = "." then fs.follow onLink cs place
    else if c = ".." then fs.follow onLink cs place.dropLast
    else if Path.isNameTooLong c then .error .nameTooLong
    else
      match fs.entry? place c with
      | none => .error .noEntry
      | some (.dir _ _) => fs.follow onLink cs (place ++ [c])
      | some (.leaf (.link target)) => onLink target place cs
      | some (.leaf (.file id)) => if cs = [] then .ok (.file id) else .error .notDirectory
      | some (.leaf .special) => if cs = [] then .ok .special else .error .notDirectory

/-- Follows components from a place through at most `links` symbolic links. -/
def resolveFrom (fs : FileSystem) : (links : Nat) → List String → List String →
    Except Errno Resolved
  | 0, cs, place => fs.follow (fun _ _ _ => .error .linkLoop) cs place
  | links + 1, cs, place =>
    fs.follow (fun target here rest =>
      fs.resolveFrom links (Path.components target ++ rest) (startOf target here)) cs place

/-! ## 2. Paths -/

/-- How many symbolic links the system follows on one path. -/
def linkLimit : Nat := 40

/-- What is wrong with the text of a path, whatever it leads to. -/
def textFault (path : String) : Option Errno :=
  if path = "" then some .noEntry
  else if Path.isTooLong path then some .nameTooLong
  else if Path.hasNul path then some .invalid
  else none

/-- What the path leads to. -/
def resolve (fs : FileSystem) (path : String) : Except Errno Resolved :=
  match textFault path with
  | some e => .error e
  | none =>
    fs.resolveFrom linkLimit (Path.components path) (startOf path fs.workingDirectory)

/-- Whether the path leads to a regular file. -/
def isFile (fs : FileSystem) (path : String) : Bool :=
  match fs.resolve path with
  | .ok (.file _) => true
  | _ => false

/-- Whether the path leads to a directory. -/
def isDirectory (fs : FileSystem) (path : String) : Bool :=
  match fs.resolve path with
  | .ok (.directory _ _ _) => true
  | _ => false

/-- The content of the file that the path leads to. -/
def read? (fs : FileSystem) (path : String) : Option FileData :=
  match fs.resolve path with
  | .ok (.file id) => some (fs.data id)
  | _ => none

/-- Where the entry at a path stands: the directory it is in, its name, and whether the path asks
for a directory by ending in a slash.  Links on the way are followed, the entry itself is not. -/
structure Spot where
  place : List String
  name : String
  asDirectory : Bool
deriving DecidableEq, Repr

/-- Finds the spot of a path that starts at `here` unless it is absolute. -/
def locateFrom (fs : FileSystem) (here : List String) (path : String) : Except Errno Spot :=
  match textFault path with
  | some e => .error e
  | none =>
    let (parent, name) := Path.splitLast (Path.withoutEndSlashes path)
    if name = "" ∨ name = "." ∨ name = ".." then .error .alreadyThere
    else if Path.isNameTooLong name then .error .nameTooLong
    else
      match fs.resolveFrom linkLimit (Path.components parent) (startOf path here) with
      | .ok (.directory place _ _) => .ok ⟨place, name, Path.endsInSlash path⟩
      | .ok _ => .error .notDirectory
      | .error e => .error e

/-- Finds the spot of a path. -/
def locate (fs : FileSystem) (path : String) : Except Errno Spot :=
  fs.locateFrom fs.workingDirectory path

/-- What stands at a spot. -/
def at? (fs : FileSystem) (s : Spot) : Option Node := fs.entry? s.place s.name

end FileSystem

end TidyTree
