/-
TidyTree.Proofs.Discovery.Files — what a discovery keeps of the walk.

A list of suffixes stands for the set of the names that end in one of
them (`EndsInOneOf`).  The files of a discovery are read off the steps of
the walk one by one (`files_of_walk`), so what is proved of the steps of
a walk carries over to the files, which are some of them in the same
order.
-/
import TidyTree.Discovery
import TidyTree.Proofs.Walk.Order

namespace TidyTree

/-! ## 1. Names and their endings -/

/-- The name is some text followed by one of the endings. -/
def EndsInOneOf (endings : List String) (name : String) : Prop :=
  ∃ ending ∈ endings, ∃ stem, name = stem ++ ending

theorem matchesSuffixes_iff {suffixes : List String} {name : String} :
    matchesSuffixes suffixes name = true ↔ EndsInOneOf suffixes name := by
  simp only [matchesSuffixes, EndsInOneOf, List.any_eq_true, hasEnding_iff]

instance (endings : List String) (name : String) : Decidable (EndsInOneOf endings name) :=
  decidable_of_iff (matchesSuffixes endings name = true) matchesSuffixes_iff

theorem matchesSuffixes_eq_decide (endings : List String) (name : String) :
    matchesSuffixes endings name = decide (EndsInOneOf endings name) := by
  rw [Bool.eq_iff_iff, decide_eq_true_iff]
  exact matchesSuffixes_iff

/-! ## 2. Files of a walk -/

/-- The file to format that a step comes to. -/
def sourceOf (fs : FileSystem) (suffixes : List String) (s : Step) : Option String :=
  (findingOf fs suffixes s).bind Finding.source?

theorem sourceOf_fault (fs : FileSystem) (suffixes : List String) (path : String) (e : Errno) :
    sourceOf fs suffixes (.fault path e) = none := rfl

theorem sourceOf_entry (fs : FileSystem) (suffixes : List String) (path name : String)
    (kind : EntryKind) :
    sourceOf fs suffixes (.entry path name kind) =
      if isFileEntry fs path kind = true ∧ matchesSuffixes suffixes name = true then some path
      else none := by
  cases hfile : isFileEntry fs path kind <;> cases hmatch : matchesSuffixes suffixes name <;>
    simp [sourceOf, findingOf, Finding.source?, hfile, hmatch]

theorem sourceOf_eq_some_iff {fs : FileSystem} {suffixes : List String} {s : Step} {p : String} :
    sourceOf fs suffixes s = some p ↔ ∃ name kind, s = .entry p name kind ∧
      isFileEntry fs p kind = true ∧ matchesSuffixes suffixes name = true := by
  cases s with
  | fault path e => simp [sourceOf_fault]
  | entry path name kind =>
    rw [sourceOf_entry]
    constructor
    · intro h
      split at h
      · next hs => cases h; exact ⟨name, kind, rfl, hs⟩
      · cases h
    · rintro ⟨name', kind', e, hs⟩
      cases e
      exact if_pos hs

/-- The files of a discovery are read off the steps of the walk one by one. -/
theorem files_of_walk {fs : FileSystem} {root : String} {steps : List Step}
    (h : fs.walk? root = some steps) (suffixes : List String) :
    (discover fs root suffixes).files = steps.filterMap (sourceOf fs suffixes) := by
  simp only [discover, findings?, h, Option.map_some, List.filterMap_filterMap]
  rfl

theorem files_of_no_walk {fs : FileSystem} {root : String} (h : fs.walk? root = none)
    (suffixes : List String) : (discover fs root suffixes).files = [] := by
  simp only [discover, findings?, h, Option.map_none]

theorem walk?_eq_some_iff {fs : FileSystem} {root : String} {steps : List Step} :
    fs.walk? root = some steps ↔ ∃ place fault inside,
      fs.resolve root = .ok (.directory place fault inside) ∧ steps = inside.steps root fault := by
  unfold FileSystem.walk?
  split
  · next place fault inside h =>
    constructor
    · intro e
      cases e
      exact ⟨place, fault, inside, h, rfl⟩
    · rintro ⟨place', fault', inside', h', rfl⟩
      rw [h] at h'
      cases h'
      rfl
  · next h =>
    constructor
    · intro e; cases e
    · rintro ⟨place, fault, inside, h', -⟩
      exact absurd h' (h place fault inside)

theorem mem_files_iff {fs : FileSystem} {root : String} {suffixes : List String} {p : String} :
    p ∈ (discover fs root suffixes).files ↔ ∃ steps, fs.walk? root = some steps ∧
      ∃ name kind, Step.entry p name kind ∈ steps ∧ isFileEntry fs p kind = true ∧
        matchesSuffixes suffixes name = true := by
  cases hw : fs.walk? root with
  | none => simp [files_of_no_walk hw]
  | some steps =>
    rw [files_of_walk hw, List.mem_filterMap]
    constructor
    · rintro ⟨s, hs, e⟩
      obtain ⟨name, kind, rfl, hfile, hmatch⟩ := sourceOf_eq_some_iff.mp e
      exact ⟨steps, rfl, name, kind, hs, hfile, hmatch⟩
    · rintro ⟨steps', e, name, kind, hs, hfile, hmatch⟩
      cases e
      exact ⟨_, hs, sourceOf_eq_some_iff.mpr ⟨name, kind, rfl, hfile, hmatch⟩⟩

end TidyTree
