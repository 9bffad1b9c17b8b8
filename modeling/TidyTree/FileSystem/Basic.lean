/-
TidyTree.FileSystem.Basic — directories, files and what they hold.

A `Listing` is what one directory holds: entries by name, each a
directory with a listing of its own or a leaf.  Files are numbers into
the contents kept beside the tree, so that two entries may be one file.

A directory may carry a fault: the error that opening it, to list what
it holds, gives.  A fault is of opening only, and paths lead through a
directory that has one, to whatever it holds.  The permission to search
a directory is not modelled: a directory that may be neither listed nor
searched, in which no call sees anything, is one with a fault and
without entries, and every directory that may be listed may be searched.

Names, and with them paths and the targets of links, are strings of
Unicode characters.  Names of other bytes are not modelled.
-/
import TidyTree.Path
import TidyTree.SystemError

namespace TidyTree

/-! ## 1. Listings -/

/-- An entry that is not a directory. -/
inductive Leaf where
  /-- A regular file, by the number of its content. -/
  | file (id : Nat)
  /-- A symbolic link with its target. -/
  | link (target : String)
  /-- Anything else, such as a pipe or a device. -/
  | special
deriving DecidableEq, Repr

/-- The entries of a directory, in the order in which the system keeps them, and of all directories
below.  The fault of a directory is the error that opening it gives; it says nothing of what stands
in the directory. -/
inductive Listing where
  | nil
  | leaf (name : String) (leaf : Leaf) (rest : Listing)
  | dir (name : String) (fault : Option Errno) (inside rest : Listing)
deriving DecidableEq, Repr, Inhabited

/-- What stands under one name in a directory. -/
inductive Node where
  | leaf (leaf : Leaf)
  | dir (fault : Option Errno) (inside : Listing)
deriving DecidableEq, Repr

namespace Listing

/-- What stands under the name. -/
def find? : Listing → String → Option Node
  | nil, _ => none
  | leaf n l rest, name => if n = name then some (.leaf l) else rest.find? name
  | dir n fault inside rest, name =>
    if n = name then some (.dir fault inside) else rest.find? name

/-- The names of the entries. -/
def names : Listing → List String
  | nil => []
  | leaf n _ rest => n :: rest.names
  | dir n _ _ rest => n :: rest.names

/-- Whether there are no entries. -/
def isEmpty : Listing → Bool
  | nil => true
  | _ => false

/-- The listing without the entry of that name. -/
def erase : Listing → String → Listing
  | nil, _ => nil
  | leaf n l rest, name => if n = name then rest else leaf n l (rest.erase name)
  | dir n fault inside rest, name =>
    if n = name then rest else dir n fault inside (rest.erase name)

/-- The listing with one more entry, which comes last. -/
def add : Listing → String → Node → Listing
  | nil, name, .leaf l => leaf name l nil
  | nil, name, .dir fault inside => dir name fault inside nil
  | leaf n l rest, name, node => leaf n l (rest.add name node)
  | dir n fault inside rest, name, node => dir n fault inside (rest.add name node)

/-- Changes what the directory of that name holds. -/
def mapDir : Listing → String → (Listing → Listing) → Listing
  | nil, _, _ => nil
  | leaf n l rest, name, f => leaf n l (rest.mapDir name f)
  | dir n fault inside rest, name, f =>
    if n = name then dir n fault (f inside) rest else dir n fault inside (rest.mapDir name f)

/-- Changes what the directory at the end of a chain of names holds. -/
def mapAt (f : Listing → Listing) : List String → Listing → Listing
  | [], l => f l
  | name :: names, l => l.mapDir name (mapAt f names)

/-- Follows a chain of names, each of which has to be a directory; gives the fault and the
entries of the last one.  The directory at the start has the fault `fault`.  Faults stop no one
here, since they are of opening only. -/
def descend : (fault : Option Errno) → Listing → List String → Option (Option Errno × Listing)
  | fault, l, [] => some (fault, l)
  | _, l, name :: names =>
    match l.find? name with
    | some (.dir fault inside) => descend fault inside names
    | _ => none

/-- What is found under a name is one of the names. -/
theorem mem_names_of_find? {l : Listing} {name : String} {node : Node}
    (h : l.find? name = some node) : name ∈ l.names := by
  induction l with
  | nil => simp [find?] at h
  | leaf n lf rest ih =>
    simp only [find?] at h
    split at h
    · next e => simp [names, e]
    · exact List.mem_cons_of_mem _ (ih h)
  | dir n fault inside rest _ ih =>
    simp only [find?] at h
    split at h
    · next e => simp [names, e]
    · exact List.mem_cons_of_mem _ (ih h)

end Listing

/-! ## 2. File systems -/

/-- Rows of bytes are compared byte by byte. -/
def bytesDecidableEq : DecidableEq ByteArray := fun a b =>
  decidable_of_iff (a.data = b.data)
    ⟨fun h => by cases a; cases b; cases h; rfl, fun h => by rw [h]⟩

local instance fileBytesDecidableEq : DecidableEq ByteArray := bytesDecidableEq

/-- What a regular file is: its bytes and its mode.  A file that is a program of the system is
known by the name of that program. -/
structure FileData where
  bytes : ByteArray
  mode : Nat
  native : Option String := none
deriving DecidableEq, Inhabited

/-- Whether the mode lets anyone run the file. -/
def FileData.executable (d : FileData) : Bool := (d.mode &&& 0o111) != 0

/-- The file with this text that may or may not be run. -/
def FileData.ofText (text : String) (executable : Bool) : FileData :=
  ⟨text.toUTF8, if executable then 0o755 else 0o644, none⟩

/-- A file system: the entries of its root, the contents of the files by their numbers, and the
working directory as the chain of names that leads to it. -/
structure FileSystem where
  root : Listing
  contents : List FileData
  workingDirectory : List String
deriving DecidableEq, Inhabited

namespace FileSystem

/-- The file system without any entry. -/
def empty : FileSystem := ⟨.nil, [], []⟩

/-- The fault and the entries of the directory at a place, given as the chain of names that leads
to it. -/
def directory? (fs : FileSystem) (place : List String) : Option (Option Errno × Listing) :=
  fs.root.descend none place

/-- What stands under the name in the directory at a place. -/
def entry? (fs : FileSystem) (place : List String) (name : String) : Option Node :=
  match fs.directory? place with
  | some (_, l) => l.find? name
  | none => none

/-- Changes the entries of the directory at a place. -/
def mapAt (fs : FileSystem) (place : List String) (f : Listing → Listing) : FileSystem :=
  { fs with root := fs.root.mapAt f place }

/-- The content of a file. -/
def data (fs : FileSystem) (id : Nat) : FileData := (fs.contents[id]?).getD default

end FileSystem

end TidyTree
