/-
TidyTree.Discovery — the files to format below a directory.

Discovery reads the walk below the root step by step.  A step that is a
file, or a link to one, is found if its name matches the suffixes and
noted as skipped if not; a directory that could not be opened is noted
too, and nothing else leaves a trace.  The files found and the records
noted are two views of the same list of findings, so both come in the
order of the walk.
-/
import TidyTree.Log
import TidyTree.Suffix
import TidyTree.Walk

namespace TidyTree

/-! ## 1. Findings -/

/-- What one step of the walk comes to. -/
inductive Finding where
  /-- A file to format. -/
  | source (path : String)
  /-- A file whose name matches no suffix. -/
  | skipped (path : String)
  /-- A directory that could not be opened. -/
  | unreadable (path : String) (error : Errno)
deriving DecidableEq, Repr

namespace Finding

/-- The path of a file to format. -/
def source? : Finding → Option String
  | source p => some p
  | _ => none

/-- What is noted in the log. -/
def record? (root : String) : Finding → Option Record
  | source _ => none
  | skipped p => some ⟨.debug, .discovery, "Skipping " ++ p ++ ": not a source file"⟩
  | unreadable p e => some ⟨.warn, .discovery,
      "Skipping unreadable entry under " ++ root ++ ": IO error for operation on " ++ p ++ ": " ++
        (SystemError.os e).text⟩

end Finding

/-- Whether the entry of a step is a file: a regular one, or a link whose path leads to one. -/
def isFileEntry (fs : FileSystem) (path : String) : EntryKind → Bool
  | .file => true
  | .link => fs.isFile path
  | .directory | .special => false

/-- What a step comes to, if it is a file or a fault. -/
def findingOf (fs : FileSystem) (suffixes : List String) : Step → Option Finding
  | .fault path e => some (.unreadable path e)
  | .entry path name kind =>
    if isFileEntry fs path kind then
      some (if matchesSuffixes suffixes name then .source path else .skipped path)
    else none

/-! ## 2. Discovery -/

/-- What a discovery gives: the files to format and the records it noted on the way. -/
structure Discovery where
  files : List String
  records : List Record
deriving DecidableEq, Repr

/-- The findings below a root, if it leads to a directory. -/
def findings? (fs : FileSystem) (root : String) (suffixes : List String) : Option (List Finding) :=
  (fs.walk? root).map fun steps => steps.filterMap (findingOf fs suffixes)

/-- The record noted when the root leads to no directory. -/
def rootMissing (root : String) : Record :=
  ⟨.warn, .discovery, "Source directory not found: " ++ root⟩

/-- Finds the files below `root` whose names match the suffixes. -/
def discover (fs : FileSystem) (root : String) (suffixes : List String) : Discovery :=
  match findings? fs root suffixes with
  | none => ⟨[], [rootMissing root]⟩
  | some found => ⟨found.filterMap Finding.source?, found.filterMap (Finding.record? root)⟩

end TidyTree
