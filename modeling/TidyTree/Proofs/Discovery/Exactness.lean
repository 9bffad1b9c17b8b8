/-
TidyTree.Proofs.Discovery.Exactness — a discovery finds all sources and
nothing else.

`mem_files_iff_reachable` says which paths a discovery finds, in terms of
the file system alone: places, what stands there, what can be opened and
what paths lead to.  Nothing of the walk is left in the statement.  One
half is soundness and the other completeness, and because the walk comes
in strict order no path is found twice.
-/
import TidyTree.Proofs.Discovery.Files

namespace TidyTree

/-! ## 1. What a file system says of paths -/

namespace FileSystem

/-- The directory at `place` can be opened by the path `path`: neither is the path too long nor
does the directory refuse. -/
def CanOpen (fs : FileSystem) (place : List String) (path : String) : Prop :=
  Path.isTooLong path = false ∧ ∃ inside, fs.directory? place = some (none, inside)

/-- The entry `name` of the directory at `place`, whose path is `path`, is a file: a regular one by
itself, or a link whose path leads to a regular one. -/
def IsFileAt (fs : FileSystem) (place : List String) (name path : String) : Prop :=
  (∃ id, fs.entry? place name = some (.leaf (.file id))) ∨
    ∃ target, fs.entry? place name = some (.leaf (.link target)) ∧
      ∃ id, fs.resolve path = .ok (.file id)

theorem isFile_iff {fs : FileSystem} {path : String} :
    fs.isFile path = true ↔ ∃ id, fs.resolve path = .ok (.file id) := by
  unfold isFile
  split
  · next id h => simp [h]
  · next h =>
    constructor
    · intro e; cases e
    · rintro ⟨id, e⟩; exact absurd e (h id)

/-- What stands under a name below a directory. -/
theorem entry?_append_eq_some_iff {fs : FileSystem} {place : List String} {fault : Option Errno}
    {inside : Listing} (h : fs.directory? place = some (fault, inside)) {dirs : List String}
    {name : String} {node : Node} :
    fs.entry? (place ++ dirs) name = some node ↔
      ∃ f l, inside.descend fault dirs = some (f, l) ∧ l.find? name = some node := by
  unfold entry?
  rw [directory?_append h]
  constructor
  · intro e
    split at e
    · next f l hd => exact ⟨f, l, hd, e⟩
    · cases e
  · rintro ⟨f, l, hd, e⟩
    rw [hd]
    exact e

theorem canOpen_append_iff {fs : FileSystem} {place : List String} {fault : Option Errno}
    {inside : Listing} (h : fs.directory? place = some (fault, inside)) {front : List String}
    {path : String} :
    fs.CanOpen (place ++ front) path ↔
      ∃ f l, inside.descend fault front = some (f, l) ∧ openFault path f = none := by
  rw [CanOpen, directory?_append h]
  constructor
  · rintro ⟨hlong, l, hd⟩
    exact ⟨none, l, hd, by simp [openFault, hlong]⟩
  · rintro ⟨f, l, hd, ho⟩
    cases hlong : Path.isTooLong path with
    | true => simp [openFault, hlong] at ho
    | false =>
      simp only [openFault, hlong] at ho
      exact ⟨rfl, l, by rw [hd, show f = none from ho]⟩

/-- The directories along a chain of names can be opened. -/
theorem opens_iff_canOpen {fs : FileSystem} {place : List String} {fault : Option Errno}
    {inside : Listing} (h : fs.directory? place = some (fault, inside)) {root : String}
    {dirs : List String} :
    inside.Opens root fault dirs ↔
      ∀ front, front <+: dirs → fs.CanOpen (place ++ front) (Path.extend root front) := by
  simp only [Listing.Opens, canOpen_append_iff h]

end FileSystem

/-- A node is taken for a file exactly if it is one, or a link that leads to one. -/
theorem isFileEntry_kind_iff {fs : FileSystem} {path : String} {node : Node} :
    isFileEntry fs path node.kind = true ↔ (∃ id, node = .leaf (.file id)) ∨
      ∃ target, node = .leaf (.link target) ∧ ∃ id, fs.resolve path = .ok (.file id) := by
  cases node with
  | dir fault inside => simp [Node.kind, isFileEntry]
  | leaf lf =>
    cases lf with
    | file id => simp [Node.kind, Leaf.kind, isFileEntry]
    | link target => simp [Node.kind, Leaf.kind, isFileEntry, FileSystem.isFile_iff]
    | special => simp [Node.kind, Leaf.kind, isFileEntry]

/-! ## 2. Soundness and completeness -/

/-- What the walk through a directory finds, said of the file system. -/
theorem entry_mem_steps_iff {fs : FileSystem} (wf : fs.WellFormed) {root : String}
    {place : List String} {fault : Option Errno} {inside : Listing}
    (h : fs.resolve root = .ok (.directory place fault inside)) {p name : String} :
    (∃ kind, Step.entry p name kind ∈ inside.steps root fault ∧ isFileEntry fs p kind = true) ↔
      ∃ dirs, p = Path.extend root (dirs ++ [name]) ∧
        (∀ front, front <+: dirs → fs.CanOpen (place ++ front) (Path.extend root front)) ∧
        fs.IsFileAt (place ++ dirs) name p := by
  have hd := FileSystem.directory?_of_resolve h
  simp only [Listing.entry_mem_steps (wf.inside hd), FileSystem.opens_iff_canOpen hd]
  constructor
  · rintro ⟨kind, ⟨dirs, f, l, node, hopen, hl, hn, rfl, rfl⟩, hfile⟩
    refine ⟨dirs, rfl, hopen, ?_⟩
    have hentry := (FileSystem.entry?_append_eq_some_iff hd).mpr ⟨f, l, hl, hn⟩
    rcases isFileEntry_kind_iff.mp hfile with ⟨id, rfl⟩ | ⟨target, rfl, hlink⟩
    · exact Or.inl ⟨id, hentry⟩
    · exact Or.inr ⟨target, hentry, hlink⟩
  · rintro ⟨dirs, rfl, hopen, hfile⟩
    have hnode : ∃ node, fs.entry? (place ++ dirs) name = some node ∧
        isFileEntry fs (Path.extend root (dirs ++ [name])) node.kind = true := by
      rcases hfile with ⟨id, hentry⟩ | ⟨target, hentry, hlink⟩
      · exact ⟨_, hentry, isFileEntry_kind_iff.mpr (Or.inl ⟨id, rfl⟩)⟩
      · exact ⟨_, hentry, isFileEntry_kind_iff.mpr (Or.inr ⟨target, rfl, hlink⟩)⟩
    obtain ⟨node, hentry, hkind⟩ := hnode
    obtain ⟨f, l, hl, hn⟩ := (FileSystem.entry?_append_eq_some_iff hd).mp hentry
    exact ⟨node.kind, ⟨dirs, f, l, node, hopen, hl, hn, rfl, rfl⟩, hkind⟩

/-! ## 3. Multiplicity -/

theorem pairwise_steps_of_walk {fs : FileSystem} (wf : fs.WellFormed) {root : String}
    {steps : List Step} (h : fs.walk? root = some steps) :
    steps.Pairwise (Step.Precedes root) := by
  obtain ⟨place, fault, inside, hr, rfl⟩ := walk?_eq_some_iff.mp h
  exact Listing.pairwise_steps (wf.inside (FileSystem.directory?_of_resolve hr)) root fault

/-- The files of a discovery come in the order of the names that lead to them. -/
theorem pairwise_below_files {fs : FileSystem} (wf : fs.WellFormed) (root : String)
    (suffixes : List String) :
    (discover fs root suffixes).files.Pairwise
      fun p q => Path.below root p < Path.below root q := by
  cases hw : fs.walk? root with
  | none =>
    rw [files_of_no_walk hw]
    exact List.Pairwise.nil
  | some steps =>
    rw [files_of_walk hw]
    refine (pairwise_steps_of_walk wf hw).filterMap _ fun s t hst p hp q hq => ?_
    obtain ⟨name, kind, rfl, -⟩ := sourceOf_eq_some_iff.mp hp
    obtain ⟨name', kind', rfl, -⟩ := sourceOf_eq_some_iff.mp hq
    exact hst

theorem nodup_files {fs : FileSystem} (wf : fs.WellFormed) (root : String)
    (suffixes : List String) : (discover fs root suffixes).files.Nodup := by
  refine (pairwise_below_files wf root suffixes).imp fun {p q} hlt e => ?_
  rw [e] at hlt
  exact lt_irrefl _ hlt

/-! ## 4. Exactness -/

/-- **Exactness of discovery.**  Below a root that leads to a directory, a discovery finds, once
each, the paths of the files whose names match, as far as all directories on the way can be
opened; below another root it finds nothing. -/
theorem mem_files_iff_reachable {fs : FileSystem} (wf : fs.WellFormed) (root : String)
    (suffixes : List String) :
    (discover fs root suffixes).files.Nodup ∧
    ∀ p, p ∈ (discover fs root suffixes).files ↔
      ∃ place fault inside dirs name,
        fs.resolve root = .ok (.directory place fault inside) ∧
        p = Path.extend root (dirs ++ [name]) ∧
        (∀ front, front <+: dirs → fs.CanOpen (place ++ front) (Path.extend root front)) ∧
        fs.IsFileAt (place ++ dirs) name p ∧
        ∃ suffix ∈ suffixes, ∃ stem, name = stem ++ suffix := by
  refine ⟨nodup_files wf root suffixes, fun p => ?_⟩
  rw [mem_files_iff]
  constructor
  · rintro ⟨steps, hw, name, kind, hs, hfile, hmatch⟩
    obtain ⟨place, fault, inside, hr, rfl⟩ := walk?_eq_some_iff.mp hw
    obtain ⟨dirs, hp, hopen, hat⟩ := (entry_mem_steps_iff wf hr).mp ⟨kind, hs, hfile⟩
    exact ⟨place, fault, inside, dirs, name, hr, hp, hopen, hat, matchesSuffixes_iff.mp hmatch⟩
  · rintro ⟨place, fault, inside, dirs, name, hr, hp, hopen, hat, hmatch⟩
    obtain ⟨kind, hs, hfile⟩ := (entry_mem_steps_iff wf hr).mpr ⟨dirs, hp, hopen, hat⟩
    exact ⟨_, walk?_eq_some_iff.mpr ⟨place, fault, inside, hr, rfl⟩, name, kind, hs, hfile,
      matchesSuffixes_iff.mpr hmatch⟩

/-- In the example, where the root is a link, a link to a file is found two directories down. -/
theorem sample_link_found : FileSystem.sample.WellFormed ∧
    (discover FileSystem.sample "link" [".h", "h", ".cpp"]).files.Nodup ∧
    "link/a/up.h" ∈ (discover FileSystem.sample "link" [".h", "h", ".cpp"]).files := by
  have wf : FileSystem.sample.WellFormed := by decide
  obtain ⟨hnodup, hmem⟩ := mem_files_iff_reachable wf "link" [".h", "h", ".cpp"]
  refine ⟨wf, hnodup, (hmem "link/a/up.h").mpr
    ⟨["here", "src"], none, FileSystem.sampleSources, ["a"], "up.h", ?_, ?_, ?_, ?_, ?_⟩⟩
  · decide +kernel
  · decide +kernel
  · intro front hfront
    rcases List.prefix_cons_iff.mp hfront with rfl | ⟨rest, rfl, hrest⟩
    · exact ⟨by decide +kernel, FileSystem.sampleSources, rfl⟩
    · rw [List.prefix_nil.mp hrest]
      exact ⟨by decide +kernel, _, rfl⟩
  · exact Or.inr ⟨"../a.h", rfl, 0, by decide +kernel⟩
  · exact ⟨".h", by decide, "up", by decide⟩

end TidyTree
