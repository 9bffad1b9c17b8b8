/-
TidyTree.Proofs.Discovery.Order — the order of the files found.

The files of a discovery come in the order of their names below the
root, compared name by name and each name byte by byte.  This is not the
order of the paths as texts: all that is below `a` comes before what is
below `a-b` and before the file `a.h`.  Because the order is strict, it
leaves nothing to the order in which the system lists a directory
(`discover_shuffled`).
-/
import TidyTree.Proofs.Discovery.Exactness
import TidyTree.Proofs.FileSystem.Shuffle
import TidyTree.Proofs.Text.ByteOrder

namespace TidyTree

/-! ## 1. Walks of shuffled listings -/

namespace Listing

theorem nodup_blocks {l : Listing} (wf : l.WellFormed) (path : String) :
    ((l.blocks path).map (·.1)).Nodup := by
  rw [map_fst_blocks]
  exact wf.nodup

/-- A walk whose blocks are only rearranged is the same walk. -/
theorem steps_eq_of_blocks_perm {l m : Listing} (wf : l.WellFormed) {path : String}
    (h : (l.blocks path).Perm (m.blocks path)) (fault : Option Errno) :
    l.steps path fault = m.steps path fault := by
  cases ho : openFault path fault with
  | some e => rw [steps_of_fault ho, steps_of_fault ho]
  | none =>
    rw [steps_of_open ho, steps_of_open ho]
    exact inNameOrder_eq_of_perm (nodup_blocks wf path) h

/-- Shuffled listings have the same blocks in another order. -/
theorem blocks_perm {l m : Listing} (h : Shuffled l m) (wf : l.WellFormed) (path : String) :
    (l.blocks path).Perm (m.blocks path) := by
  induction h generalizing path with
  | nil => exact .nil
  | leaf name lf _ ih => exact (ih wf.2.2 path).cons _
  | @dir name fault inside inside' rest rest' _ _ ihi ih =>
    have hsteps : (Node.dir fault inside).steps path name =
        (Node.dir fault inside').steps path name := by
      rw [Node.steps, Node.steps, steps_eq_of_blocks_perm wf.2.2.1 (ihi wf.2.2.1 _)]
    show ((name, (Node.dir fault inside).steps path name) :: rest.blocks path).Perm
      ((name, (Node.dir fault inside').steps path name) :: rest'.blocks path)
    rw [hsteps]
    exact (ih wf.2.2.2 path).cons _
  | swap name other node node' rest =>
    simp only [blocks_cons]
    exact .swap _ _ _
  | trans hlm _ ih₁ ih₂ => exact (ih₁ wf path).trans (ih₂ (hlm.wellFormed wf) path)

theorem steps_shuffled {l m : Listing} (h : Shuffled l m) (wf : l.WellFormed) (path : String)
    (fault : Option Errno) : l.steps path fault = m.steps path fault :=
  steps_eq_of_blocks_perm wf (blocks_perm h wf path) fault

end Listing

theorem walk?_shuffled {fs gs : FileSystem} (h : fs.Shuffled gs) (wf : fs.WellFormed)
    (root : String) : gs.walk? root = fs.walk? root := by
  have hsame := FileSystem.resolve_shuffled h wf root
  have hinside : ∀ place fault inside, fs.resolve root = .ok (.directory place fault inside) →
      inside.WellFormed :=
    fun _ _ _ hr => wf.inside (FileSystem.directory?_of_resolve hr)
  unfold FileSystem.walk?
  generalize fs.resolve root = a at *
  generalize gs.resolve root = b at *
  cases hsame with
  | error | file | special => rfl
  | directory place fault hi =>
    exact congrArg some (Listing.steps_shuffled hi (hinside _ _ _ rfl) root fault).symm

theorem isFileEntry_shuffled {fs gs : FileSystem} (h : fs.Shuffled gs) (wf : fs.WellFormed)
    (path : String) (kind : EntryKind) : isFileEntry gs path kind = isFileEntry fs path kind := by
  cases kind with
  | link => exact FileSystem.isFile_shuffled h wf path
  | file | directory | special => rfl

/-- A discovery does not depend on the order in which directories keep their entries. -/
theorem discover_shuffled {fs gs : FileSystem} (h : fs.Shuffled gs) (wf : fs.WellFormed)
    (root : String) (suffixes : List String) :
    discover gs root suffixes = discover fs root suffixes := by
  have hfinding : findingOf gs suffixes = findingOf fs suffixes := by
    funext s
    cases s with
    | fault => rfl
    | entry path name kind => rw [findingOf, findingOf, isFileEntry_shuffled h wf]
  simp only [discover, findings?, walk?_shuffled h wf, hfinding]

/-! ## 2. The order of the files -/

theorem below_of_mem_files {fs : FileSystem} (wf : fs.WellFormed) {root : String}
    {suffixes : List String} {p : String} (hp : p ∈ (discover fs root suffixes).files) :
    p = Path.extend root (Path.below root p) ∧ Path.below root p ≠ [] ∧
      ∀ name ∈ Path.below root p, Path.IsName name := by
  obtain ⟨steps, hw, name, kind, hs, -⟩ := mem_files_iff.mp hp
  obtain ⟨place, fault, inside, hr, rfl⟩ := walk?_eq_some_iff.mp hw
  have hinside := wf.inside (FileSystem.directory?_of_resolve hr)
  obtain ⟨names, hne, hnames, rfl⟩ := Listing.exists_names_of_mem_steps hinside hs
  rw [Path.below_extend hnames]
  exact ⟨rfl, hne, hnames⟩

/-- **Order of discovery.**  Every file found is the root extended by names, the chains of names
come in strictly increasing lexicographic order of the bytes of the names, and the order in which
directories keep their entries changes nothing. -/
theorem files_in_order {fs : FileSystem} (wf : fs.WellFormed) (root : String)
    (suffixes : List String) :
    (∀ p ∈ (discover fs root suffixes).files,
      p = Path.extend root (Path.below root p) ∧ Path.below root p ≠ [] ∧
        ∀ name ∈ Path.below root p, Path.IsName name) ∧
    (discover fs root suffixes).files.Pairwise (fun p q =>
      (Path.below root p).map Text.utf8 < (Path.below root q).map Text.utf8) ∧
    ∀ gs : FileSystem, fs.Shuffled gs →
      (discover gs root suffixes).files = (discover fs root suffixes).files := by
  refine ⟨fun p hp => below_of_mem_files wf hp, ?_, fun gs h => ?_⟩
  · exact (pairwise_below_files wf root suffixes).imp fun hlt => Text.map_utf8_lt_iff.mpr hlt
  · rw [discover_shuffled h wf]

/-- In the example it changes nothing if the sources keep `a-b` before `a.h`. -/
theorem sample_in_order : FileSystem.sample.WellFormed ∧
    (discover FileSystem.sample "link" [".h", ".cpp"]).files.Pairwise (fun p q =>
      (Path.below "link" p).map Text.utf8 < (Path.below "link" q).map Text.utf8) ∧
    (discover (.sampleOf (FileSystem.sampleDeep (.leaf "a.h" (.file 0) FileSystem.sampleOthers)))
      "link" [".h", ".cpp"]).files = (discover FileSystem.sample "link" [".h", ".cpp"]).files := by
  have wf : FileSystem.sample.WellFormed := by decide
  obtain ⟨-, hsorted, hsame⟩ := files_in_order wf "link" [".h", ".cpp"]
  refine ⟨wf, hsorted, hsame _ ⟨.dir "here" none (.dir "src" none ?_ (.refl _)) .nil, rfl, rfl⟩⟩
  exact .swap "a.h" "a-b" (.leaf (.file 0)) (.dir none (.leaf "deep.cpp" (.file 1) .nil)) _

/-- The order of the chains is not the order of the paths as texts. -/
example : "link/a-b/deep.cpp" < "link/a/z.h" ∧
    Path.below "link" "link/a/z.h" < Path.below "link" "link/a-b/deep.cpp" := by
  decide +kernel

end TidyTree
