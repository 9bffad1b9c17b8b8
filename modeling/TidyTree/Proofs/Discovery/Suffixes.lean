/-
TidyTree.Proofs.Discovery.Suffixes — what a discovery makes of its
suffixes.

The set of the names that end in one of the suffixes (`EndsInOneOf`) is
all that a discovery knows of their list (`discover_congr`).  The walk
does not depend on it, so what is found are the files found for the
empty suffix, in which every name ends, without those whose names are
not in the set (`files_eq_filter`).  The laws of unions, repetitions and
orders then are laws of sets.
-/
import TidyTree.Config
import TidyTree.Proofs.Discovery.Order

namespace TidyTree

/-! ## 1. The name at the end of a path -/

namespace Path

/-- The name at the end of a path: what stands behind its last slash. -/
def lastName (path : String) : String := (splitLast path).2

theorem lastName_join (root : String) {name : String} (h : IsName name) :
    lastName (join root name) = name := by
  obtain ⟨front, hfront⟩ : ∃ front, slashed root = front ++ ['/'] := by
    unfold slashed
    split
    · next hslash => exact List.getLast?_eq_some_iff.mp (by simpa [endsInSlash] using hslash)
    · exact ⟨root.toList, rfl⟩
  have hchars : (join root name).toList.reverse = name.toList.reverse ++ '/' :: front.reverse := by
    rw [toList_join, hfront]
    simp
  have hname : ∀ c ∈ name.toList.reverse, decide (c ≠ '/') = true := by
    intro c hc
    refine decide_eq_true fun heq => h.no_slash ?_
    rwa [← heq, ← List.mem_reverse]
  rw [lastName, splitLast, hchars, List.takeWhile_append_of_pos hname]
  simp

theorem lastName_extend (root : String) (dirs : List String) {name : String} (h : IsName name) :
    lastName (extend root (dirs ++ [name])) = name := by
  rw [extend_append]
  exact lastName_join _ h

end Path

/-- A walk comes to entries with names, which stand at the ends of their paths. -/
theorem Listing.name_of_mem_steps {l : Listing} (wf : l.WellFormed) {path : String}
    {fault : Option Errno} {p name : String} {kind : EntryKind}
    (hs : .entry p name kind ∈ l.steps path fault) :
    Path.IsName name ∧ Path.lastName p = name := by
  obtain ⟨dirs, f, inside, node, -, hd, hn, -, rfl⟩ := (entry_mem_steps wf).mp hs
  have hname := (wf.descend hd).isName_of_find? hn
  exact ⟨hname, Path.lastName_extend path dirs hname⟩

/-! ## 2. Sets of names -/

section Endings

variable {endings others : List String} {ending name : String}

theorem endsInOneOf_nil : ¬ EndsInOneOf [] name := by
  simp [EndsInOneOf]

/-- Every name ends in nothing. -/
theorem endsInOneOf_empty : EndsInOneOf [""] name :=
  ⟨"", List.mem_singleton_self "", name, by simp⟩

theorem EndsInOneOf.mono (h : EndsInOneOf endings name) (hsub : endings ⊆ others) :
    EndsInOneOf others name := by
  obtain ⟨ending, hending, hname⟩ := h
  exact ⟨ending, hsub hending, hname⟩

theorem endsInOneOf_append :
    EndsInOneOf (endings ++ others) name ↔ EndsInOneOf endings name ∨ EndsInOneOf others name := by
  simp only [EndsInOneOf, List.mem_append, or_and_right, exists_or]

/-- An ending of an ending is an ending. -/
theorem EndsInOneOf.trans (h : EndsInOneOf others name)
    (hcover : ∀ ending ∈ others, EndsInOneOf endings ending) : EndsInOneOf endings name := by
  obtain ⟨other, hother, stem, rfl⟩ := h
  obtain ⟨ending, hending, stem', rfl⟩ := hcover other hother
  exact ⟨ending, hending, stem ++ stem', (String.append_assoc ..).symm⟩

/-- Endings that end in endings add no name. -/
theorem endsInOneOf_iff_of_cover (hsub : endings ⊆ others)
    (hcover : ∀ ending ∈ others, EndsInOneOf endings ending) :
    EndsInOneOf others name ↔ EndsInOneOf endings name :=
  ⟨fun h => h.trans hcover, fun h => h.mono hsub⟩

/-- No name ends in a text with a slash. -/
theorem not_endsInOneOf_slash (hname : Path.IsName name) (hslash : '/' ∈ ending.toList) :
    ¬ EndsInOneOf [ending] name := by
  rintro ⟨other, hother, stem, rfl⟩
  rw [List.mem_singleton.mp hother] at hname
  exact hname.no_slash (by simp [hslash])

end Endings

/-! ## 3. What a discovery knows of its suffixes -/

section Discovery

variable {fs : FileSystem}

/-- Suffixes that match the same names give the same discovery. -/
theorem discover_congr (wf : fs.WellFormed) (root : String) {A B : List String}
    (h : ∀ name, Path.IsName name → (EndsInOneOf A name ↔ EndsInOneOf B name)) :
    discover fs root A = discover fs root B := by
  have hfindings : findings? fs root A = findings? fs root B := by
    unfold findings?
    cases hw : fs.walk? root with
    | none => rfl
    | some steps =>
      obtain ⟨place, fault, inside, hr, rfl⟩ := walk?_eq_some_iff.mp hw
      have hinside := wf.inside (FileSystem.directory?_of_resolve hr)
      rw [Option.map_some, Option.map_some]
      refine congrArg some (List.filterMap_congr fun s hs => ?_)
      cases s with
      | fault path e => rfl
      | entry path name kind =>
        have hname := (Listing.name_of_mem_steps hinside hs).1
        have hsame : matchesSuffixes A name = matchesSuffixes B name := by
          rw [matchesSuffixes_eq_decide, matchesSuffixes_eq_decide]
          exact decide_eq_decide.mpr (h name hname)
        rw [findingOf, findingOf, hsame]
  rw [discover, discover, hfindings]

/-- What is found are all files whose names end in one of the suffixes, and they come in the order
of all files. -/
theorem files_eq_filter (wf : fs.WellFormed) (root : String) (A : List String) :
    (discover fs root A).files =
      (discover fs root [""]).files.filter fun p => EndsInOneOf A (Path.lastName p) := by
  cases hw : fs.walk? root with
  | none => rw [files_of_no_walk hw, files_of_no_walk hw, List.filter_nil]
  | some steps =>
    obtain ⟨place, fault, inside, hr, rfl⟩ := walk?_eq_some_iff.mp hw
    have hinside := wf.inside (FileSystem.directory?_of_resolve hr)
    rw [files_of_walk hw, files_of_walk hw, List.filter_filterMap]
    refine List.filterMap_congr fun s hs => ?_
    cases s with
    | fault path e => rfl
    | entry path name kind =>
      have hlast := (Listing.name_of_mem_steps hinside hs).2
      have hall : matchesSuffixes [""] name = true := matchesSuffixes_iff.mpr endsInOneOf_empty
      rw [sourceOf_entry, sourceOf_entry, matchesSuffixes_eq_decide]
      cases isFileEntry fs path kind with
      | false => simp
      | true => by_cases hA : EndsInOneOf A name <;> simp [Option.filter, hall, hlast, hA]

theorem mem_files_iff_endsInOneOf (wf : fs.WellFormed) {root p : String} {A : List String} :
    p ∈ (discover fs root A).files ↔
      p ∈ (discover fs root [""]).files ∧ EndsInOneOf A (Path.lastName p) := by
  rw [files_eq_filter wf, List.mem_filter, decide_eq_true_iff]

theorem files_of_no_suffix (wf : fs.WellFormed) (root : String) :
    (discover fs root []).files = [] := by
  rw [files_eq_filter wf]
  exact List.filter_eq_nil_iff.mpr fun p _ => by simp [endsInOneOf_nil]

/-- A suffix with a slash makes no difference. -/
theorem discover_cons_slash (wf : fs.WellFormed) (root : String) {suffix : String}
    (hslash : '/' ∈ suffix.toList) (A : List String) :
    discover fs root (suffix :: A) = discover fs root A := by
  refine discover_congr wf root fun name hname => ?_
  rw [← List.singleton_append, endsInOneOf_append]
  exact or_iff_right (not_endsInOneOf_slash hname hslash)

/-- **Suffixes act as the set of the names that end in one of them.**  What is found are all files
whose own names (not paths) end in one of the suffixes, in the order of all files; so lists of
suffixes put together find what either finds.  Suffixes may be put into another order, repeated,
or joined by others that end in one of them, and the discovery is the same.  No suffix, or one with
a slash, finds nothing, and the default suffixes find the sources. -/
theorem discovery_by_endings (wf : fs.WellFormed) (root : String) (A B : List String) :
    ((discover fs root A).files =
      (discover fs root [""]).files.filter fun p => EndsInOneOf A (Path.lastName p)) ∧
    (∀ p, p ∈ (discover fs root (A ++ B)).files ↔
      p ∈ (discover fs root A).files ∨ p ∈ (discover fs root B).files) ∧
    (discover fs root A).files.Sublist (discover fs root (A ++ B)).files ∧
    (∀ C, A ⊆ C → (∀ suffix ∈ C, EndsInOneOf A suffix) → discover fs root C = discover fs root A) ∧
    (discover fs root []).files = [] ∧
    (∀ suffix, '/' ∈ suffix.toList → (discover fs root [suffix]).files = [] ∧
      discover fs root (suffix :: A) = discover fs root A) ∧
    (∀ name, EndsInOneOf Config.default.suffixes name ↔ isSourceFile name = true) ∧
    ((discover fs root Config.default.suffixes).files =
      (discover fs root [""]).files.filter fun p => isSourceFile (Path.lastName p)) := by
  have hsource : ∀ name, EndsInOneOf Config.default.suffixes name ↔ isSourceFile name = true :=
    fun name => matchesSuffixes_iff.symm
  refine ⟨files_eq_filter wf root A, fun p => ?_, ?_, fun C hsub hcover => ?_,
    files_of_no_suffix wf root, fun suffix hslash => ⟨?_, discover_cons_slash wf root hslash A⟩,
    hsource, ?_⟩
  · rw [mem_files_iff_endsInOneOf wf (A := A ++ B), mem_files_iff_endsInOneOf wf (A := A),
      mem_files_iff_endsInOneOf wf (A := B), endsInOneOf_append, and_or_left]
  · rw [files_eq_filter wf root A, files_eq_filter wf root (A ++ B)]
    refine List.monotone_filter_right _ fun p hp => ?_
    rw [decide_eq_true_iff] at hp ⊢
    exact endsInOneOf_append.mpr (Or.inl hp)
  · exact discover_congr wf root fun name _ => endsInOneOf_iff_of_cover hsub hcover
  · rw [discover_cons_slash wf root hslash]
    exact files_of_no_suffix wf root
  · rw [files_eq_filter wf]
    refine List.filter_congr fun p _ => ?_
    rw [Bool.eq_iff_iff, decide_eq_true_iff]
    exact hsource _

end Discovery

/-- In the example, where the root is a link, the suffixes of sources find `a.h`; `up.h` beside `.h`
adds nothing, whatever the order, nor does `link/a.h`, although a path ends in it. -/
theorem sample_by_endings : FileSystem.sample.WellFormed ∧
    "link/a.h" ∈ (discover FileSystem.sample "link" Config.default.suffixes).files ∧
    discover FileSystem.sample "link" [".cpp", "up.h", ".h", ".h"] =
      discover FileSystem.sample "link" [".h", ".cpp"] ∧
    (discover FileSystem.sample "link" ["link/a.h"]).files = [] ∧
    discover FileSystem.sample "link" ["link/a.h", ".h", ".cpp"] =
      discover FileSystem.sample "link" [".h", ".cpp"] := by
  have wf : FileSystem.sample.WellFormed := by decide
  have hr : FileSystem.sample.resolve "link" =
      .ok (.directory ["here", "src"] none FileSystem.sampleSources) := by decide +kernel
  obtain ⟨kind, hs, hfile⟩ : ∃ kind, .entry "link/a.h" "a.h" kind ∈
        FileSystem.sampleSources.steps "link" none ∧
      isFileEntry FileSystem.sample "link/a.h" kind = true := by
    refine (entry_mem_steps_iff wf hr).mpr ⟨[], by decide +kernel, fun front hfront => ?_,
      Or.inl ⟨0, rfl⟩⟩
    rw [List.prefix_nil.mp hfront]
    exact ⟨by decide +kernel, FileSystem.sampleSources, rfl⟩
  have hall : "link/a.h" ∈ (discover FileSystem.sample "link" [""]).files :=
    mem_files_iff.mpr ⟨_, walk?_eq_some_iff.mpr ⟨_, _, _, hr, rfl⟩, "a.h", kind, hs, hfile, rfl⟩
  obtain ⟨-, -, -, hcover, -, hslash, -, hdefault⟩ :=
    discovery_by_endings wf "link" [".h", ".cpp"] []
  refine ⟨wf, ?_, hcover _ (by decide) (by decide), hslash "link/a.h" (by decide)⟩
  rw [hdefault]
  exact List.mem_filter.mpr ⟨hall, by decide⟩

end TidyTree
