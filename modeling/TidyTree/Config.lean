/-
TidyTree.Config — what is formatted, and with what.
-/
import TidyTree.Suffix

namespace TidyTree

/-- The directory whose sources are formatted unless another is given. -/
def sourceDirectory : String := "src"

/-- The formatter that is run unless another is given. -/
def clangFormat : String := "clang-format"

/-- The flag that makes the formatter change a file in its place. -/
def inPlaceFlag : String := "-i"

/-- The directory to walk, the formatter with its flag, and the suffixes of the files to format. -/
structure Config where
  rootDir : String := sourceDirectory
  program : String := clangFormat
  inPlaceFlag : String := TidyTree.inPlaceFlag
  suffixes : List String := sourceSuffixes
deriving DecidableEq, Repr

/-- The configuration in which nothing is set. -/
def Config.default : Config := {}

end TidyTree
