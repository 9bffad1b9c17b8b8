/-
TidyTree.Config.Field — the fields of a configuration by name.

The fields have an order, which is that of the keys in a written
configuration and of the values in one given as a list.  Reading fills
a `Partial`, in which each field is still open or given; `Partial.fill`
takes the default for the open ones.
-/
import TidyTree.Config

namespace TidyTree.Config

/-! ## 1. Names and order -/

/-- A field of a configuration. -/
inductive Field where
  | rootDir
  | program
  | inPlaceFlag
  | suffixes
deriving DecidableEq, Repr

namespace Field

/-- The fields in their order. -/
def all : List Field := [rootDir, program, inPlaceFlag, suffixes]

/-- The key of a field. -/
def key : Field → String
  | rootDir => "root_dir"
  | program => "program"
  | inPlaceFlag => "in_place_flag"
  | suffixes => "suffixes"

/-- The field with that key. -/
def ofKey? (s : String) : Option Field := all.find? fun f => f.key == s

/-- Every field is found by its key. -/
theorem ofKey?_key (f : Field) : ofKey? f.key = some f := by
  cases f <;> rfl

end Field

/-! ## 2. Values -/

/-- The values a field can hold. -/
def Field.Value : Field → Type
  | .suffixes => List String
  | _ => String

/-- A configuration of which each field is given or still open. -/
structure Partial where
  rootDir : Option String := none
  program : Option String := none
  inPlaceFlag : Option String := none
  suffixes : Option (List String) := none
deriving DecidableEq, Repr

namespace Partial

/-- The configuration in which every field is open. -/
def blank : Partial := {}

/-- Whether the field is given. -/
def has (p : Partial) : Field → Bool
  | .rootDir => p.rootDir.isSome
  | .program => p.program.isSome
  | .inPlaceFlag => p.inPlaceFlag.isSome
  | .suffixes => p.suffixes.isSome

/-- Gives the field a value. -/
def set (p : Partial) : (f : Field) → f.Value → Partial
  | .rootDir, v => { p with rootDir := some v }
  | .program, v => { p with program := some v }
  | .inPlaceFlag, v => { p with inPlaceFlag := some v }
  | .suffixes, v => { p with suffixes := some v }

/-- The configuration with the default in each open field. -/
def fill (p : Partial) : Config where
  rootDir := p.rootDir.getD Config.default.rootDir
  program := p.program.getD Config.default.program
  inPlaceFlag := p.inPlaceFlag.getD Config.default.inPlaceFlag
  suffixes := p.suffixes.getD Config.default.suffixes

end Partial

end TidyTree.Config
