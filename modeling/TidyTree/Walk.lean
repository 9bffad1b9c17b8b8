/-
TidyTree.Walk — everything below a directory, in the order of a walk.

The walk goes depth first.  The entries of a directory come in the
order of their names, and what a directory holds comes right behind it.
A directory that cannot be opened gives a fault in the place of what it
holds.  The walk is given once, as a list of steps
(`Listing.steps`); it is built from one block per entry, so that
sorting the entries is sorting the blocks.
-/
import TidyTree.FileSystem.Resolve

namespace TidyTree

/-! ## 1. Steps -/

/-- What an entry is by itself; a link is a link, whatever it leads to. -/
inductive EntryKind where
  | file
  | directory
  | link
  | special
deriving DecidableEq, Repr

/-- The kind of a leaf. -/
def Leaf.kind : Leaf → EntryKind
  | .file _ => .file
  | .link _ => .link
  | .special => .special

/-- One step of a walk. -/
inductive Step where
  /-- An entry with its path, its name and its own kind. -/
  | entry (path name : String) (kind : EntryKind)
  /-- A directory that could not be opened, and why. -/
  | fault (path : String) (error : Errno)
deriving DecidableEq, Repr

/-! ## 2. Directories -/

/-- Why the directory at a path cannot be opened, if so: its path is too long, or it has a fault
of its own. -/
def openFault (path : String) (fault : Option Errno) : Option Errno :=
  if Path.isTooLong path then some .nameTooLong else fault

/-- What comes before what when entries are sorted by name. -/
def nameOrder {α : Type} (a b : String × α) : Bool := a.1 ≤ b.1

/-- The blocks of a directory in the order of their names, one after the other. -/
def inNameOrder (blocks : List (String × List Step)) : List Step :=
  (blocks.mergeSort nameOrder).flatMap (·.2)

/-- The steps of a walk through a directory, given its blocks. -/
def throughDirectory (path : String) (fault : Option Errno) (blocks : List (String × List Step)) :
    List Step :=
  match openFault path fault with
  | some e => [.fault path e]
  | none => inNameOrder blocks

/-- For each entry of the directory at `path`, its name and the steps of the walk that belong to
it. -/
def Listing.blocks (path : String) : Listing → List (String × List Step)
  | .nil => []
  | .leaf name l rest =>
    (name, [.entry (Path.join path name) name l.kind]) :: rest.blocks path
  | .dir name fault inside rest =>
    (name, .entry (Path.join path name) name .directory ::
      throughDirectory (Path.join path name) fault (inside.blocks (Path.join path name))) ::
    rest.blocks path

/-- The walk through a directory that is known by the path `path`. -/
def Listing.steps (l : Listing) (path : String) (fault : Option Errno) : List Step :=
  throughDirectory path fault (l.blocks path)

/-- The walk below a path, if it leads to a directory; a link there is followed. -/
def FileSystem.walk? (fs : FileSystem) (path : String) : Option (List Step) :=
  match fs.resolve path with
  | .ok (.directory _ fault inside) => some (inside.steps path fault)
  | _ => none

end TidyTree
