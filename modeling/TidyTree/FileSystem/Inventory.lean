/-
TidyTree.FileSystem.Inventory — everything below a directory, as a list.

The list holds each entry with its path relative to the directory,
sorted by the bytes of the paths.  Links are not followed.
-/
import TidyTree.FileSystem.Basic

namespace TidyTree

local instance itemBytesDecidableEq : DecidableEq ByteArray := bytesDecidableEq

/-- An entry as it is listed. -/
inductive Item where
  | directory
  | file (bytes : ByteArray)
  | link (target : String)
  | special
deriving DecidableEq

/-- The entries below a directory with their relative paths; `before` is put in front of every
name. -/
def Listing.items (data : Nat → FileData) : (before : String) → Listing → List (String × Item)
  | _, .nil => []
  | before, .leaf name l rest =>
    let item := match l with
      | .file id => .file (data id).bytes
      | .link target => .link target
      | .special => .special
    (before ++ name, item) :: rest.items data before
  | before, .dir name _ inside rest =>
    (before ++ name, .directory) ::
      (inside.items data (before ++ name ++ "/") ++ rest.items data before)

/-- Everything below the directory at a place. -/
def FileSystem.inventory (fs : FileSystem) (place : List String) : List (String × Item) :=
  match fs.directory? place with
  | some (_, l) => (l.items fs.data "").mergeSort fun a b => a.1 ≤ b.1
  | none => []

end TidyTree
