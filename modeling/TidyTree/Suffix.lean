/-
TidyTree.Suffix — which file names are those of sources.

A name matches a list of suffixes if it ends in one of them.  The
sources are the names ending in `.h` or `.cpp`.
-/

namespace TidyTree

/-! ## 1. Endings of names -/

/-- Whether `name` is some text followed by `ending`. -/
def hasEnding (name ending : String) : Bool := ending.toList.isSuffixOf name.toList

/-- `hasEnding` says that the name can be split before the ending. -/
theorem hasEnding_iff (name ending : String) :
    hasEnding name ending = true ↔ ∃ stem, name = stem ++ ending := by
  simp only [hasEnding, List.isSuffixOf_iff_suffix]
  constructor
  · rintro ⟨t, h⟩
    exact ⟨String.ofList t, String.ext (by simp [h])⟩
  · rintro ⟨t, h⟩
    exact ⟨t.toList, by simp [h]⟩

/-- Whether the name ends in one of the suffixes. -/
def matchesSuffixes (suffixes : List String) (name : String) : Bool :=
  suffixes.any (hasEnding name)

/-! ## 2. Sources -/

/-- The suffix of headers. -/
def headerSuffix : String := ".h"

/-- The suffix of implementations. -/
def implementationSuffix : String := ".cpp"

/-- The suffixes of sources. -/
def sourceSuffixes : List String := [headerSuffix, implementationSuffix]

/-- Whether the name is that of a source. -/
def isSourceFile (name : String) : Bool := matchesSuffixes sourceSuffixes name

end TidyTree
