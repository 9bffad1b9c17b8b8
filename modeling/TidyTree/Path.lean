/-
TidyTree.Path — the text of a path.

A path is kept as it was written.  Joining a name to it adds one slash
unless there is one already; nothing is ever normalised.  The
components of a path are what stands between its slashes, with an empty
component before a leading and after a trailing slash.
-/

namespace TidyTree.Path

/-! ## 1. Taking a path apart -/

/-- What stands between the slashes of a text, from the characters before the first one on. -/
def split : List Char → List (List Char)
  | [] => [[]]
  | c :: cs =>
    if c = '/' then [] :: split cs
    else
      match split cs with
      | [] => [[c]]
      | part :: parts => (c :: part) :: parts

/-- The components of a path. -/
def components (path : String) : List String := (split path.toList).map String.ofList

/-- Whether the path starts at the root. -/
def isAbsolute (path : String) : Bool := path.toList.head? = some '/'

/-- Whether the path ends in a slash. -/
def endsInSlash (path : String) : Bool := path.toList.getLast? = some '/'

/-- The last component of a path and what comes before it, slash included. -/
def splitLast (path : String) : String × String :=
  let name := (path.toList.reverse.takeWhile (· ≠ '/')).reverse
  (String.ofList (path.toList.take (path.toList.length - name.length)), String.ofList name)

/-- The path without slashes at its end, but with those at its beginning. -/
def withoutEndSlashes (path : String) : String :=
  match (path.toList.reverse.dropWhile (· = '/')).reverse with
  | [] => if path.toList = [] then "" else "/"
  | cs => String.ofList cs

/-! ## 2. Putting paths together -/

/-- The path of the entry `name` in the directory at `path`. -/
def join (path name : String) : String :=
  if endsInSlash path then path ++ name else path ++ "/" ++ name

/-! ## 3. What the system takes -/

/-- The number of bytes at which a path is too long. -/
def limit : Nat := 4096

/-- The number of bytes up to which a component is not too long. -/
def nameLimit : Nat := 255

/-- Whether the system refuses the path for its length. -/
def isTooLong (path : String) : Bool := limit ≤ path.utf8ByteSize

/-- Whether the system refuses the component for its length. -/
def isNameTooLong (name : String) : Bool := nameLimit < name.utf8ByteSize

/-- Whether the text holds a NUL character, which the system takes for its end. -/
def hasNul (s : String) : Bool := s.toList.contains '\x00'

end TidyTree.Path
