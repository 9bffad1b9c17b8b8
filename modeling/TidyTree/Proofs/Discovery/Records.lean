/-
TidyTree.Proofs.Discovery.Records — what a discovery notes about the
walk.

`Noted` reads a walk step by step and does not know the discovery: a
file entry is found or noted as skipped, a fault is noted, and every
other entry is passed in silence.  A discovery takes exactly this
reading of the walk below its root (`noted_discover`), so its files and
its records come in the order of the walk, and since no two entries of a
walk have one path they share the file entries out (`Noted.count_eq_one`).
-/
import TidyTree.Proofs.Discovery.Walked

namespace TidyTree

/-! ## 1. Reading a walk -/

/-- The record of a directory that could not be opened. -/
def unreadableRecord (root path : String) (e : Errno) : Record :=
  ⟨.warn, .discovery,
    "Skipping unreadable entry under " ++ root ++ ": IO error for operation on " ++ path ++ ": " ++
      (SystemError.os e).text⟩

/-- The record of a file whose name matches no suffix. -/
def skippedRecord (path : String) : Record :=
  ⟨.debug, .discovery, "Skipping " ++ path ++ ": not a source file"⟩

/-- The warning that a step gives: one for a directory that could not be opened. -/
def warning? (root : String) : Step → Option Record
  | .fault p e => some (unreadableRecord root p e)
  | .entry _ _ _ => none

/-- An entry is a file by itself, or a link whose path leads to one. -/
def IsFileEntry (fs : FileSystem) (path : String) (kind : EntryKind) : Prop :=
  kind = .file ∨ kind = .link ∧ ∃ id, fs.resolve path = .ok (.file id)

/-- Read step by step, a walk below `root` gives these files and these records. -/
inductive Noted (fs : FileSystem) (root : String) (suffixes : List String) :
    List Step → List String → List Record → Prop
  | done : Noted fs root suffixes [] [] []
  | unreadable {steps : List Step} {files : List String} {records : List Record}
      (p : String) (e : Errno) :
      Noted fs root suffixes steps files records →
      Noted fs root suffixes (.fault p e :: steps) files (unreadableRecord root p e :: records)
  | found {steps : List Step} {files : List String} {records : List Record}
      {p name : String} {kind : EntryKind} :
      IsFileEntry fs p kind → EndsInOneOf suffixes name →
      Noted fs root suffixes steps files records →
      Noted fs root suffixes (.entry p name kind :: steps) (p :: files) records
  | skipped {steps : List Step} {files : List String} {records : List Record}
      {p name : String} {kind : EntryKind} :
      IsFileEntry fs p kind → ¬ EndsInOneOf suffixes name →
      Noted fs root suffixes steps files records →
      Noted fs root suffixes (.entry p name kind :: steps) files (skippedRecord p :: records)
  | passed {steps : List Step} {files : List String} {records : List Record}
      {p name : String} {kind : EntryKind} :
      ¬ IsFileEntry fs p kind →
      Noted fs root suffixes steps files records →
      Noted fs root suffixes (.entry p name kind :: steps) files records

/-! ## 2. The reading of a discovery -/

theorem isFileEntry_iff {fs : FileSystem} {path : String} {kind : EntryKind} :
    isFileEntry fs path kind = true ↔ IsFileEntry fs path kind := by
  cases kind <;> simp [isFileEntry, IsFileEntry, FileSystem.isFile_iff]

/-- The record that a step comes to. -/
def recordOf (fs : FileSystem) (root : String) (suffixes : List String) (s : Step) :
    Option Record :=
  (findingOf fs suffixes s).bind (Finding.record? root)

theorem records_of_walk {fs : FileSystem} {root : String} {steps : List Step}
    (h : fs.walk? root = some steps) (suffixes : List String) :
    (discover fs root suffixes).records = steps.filterMap (recordOf fs root suffixes) := by
  simp only [discover, findings?, h, Option.map_some, List.filterMap_filterMap]
  rfl

/-- Any steps are read by what a discovery makes of each of them. -/
theorem noted_filterMap (fs : FileSystem) (root : String) (suffixes : List String)
    (steps : List Step) :
    Noted fs root suffixes steps (steps.filterMap (sourceOf fs suffixes))
      (steps.filterMap (recordOf fs root suffixes)) := by
  induction steps with
  | nil => exact .done
  | cons s steps ih =>
    cases s with
    | fault p e => exact .unreadable p e ih
    | entry p name kind =>
      by_cases hfile : isFileEntry fs p kind = true
      · by_cases hmatch : matchesSuffixes suffixes name = true
        · have hsource : sourceOf fs suffixes (.entry p name kind) = some p := by
            rw [sourceOf_entry, if_pos ⟨hfile, hmatch⟩]
          have hrecord : recordOf fs root suffixes (.entry p name kind) = none := by
            simp [recordOf, findingOf, hfile, hmatch, Finding.record?]
          rw [List.filterMap_cons_some hsource, List.filterMap_cons_none hrecord]
          exact .found (isFileEntry_iff.mp hfile) (matchesSuffixes_iff.mp hmatch) ih
        · have hsource : sourceOf fs suffixes (.entry p name kind) = none := by
            rw [sourceOf_entry, if_neg fun h => hmatch h.2]
          have hrecord : recordOf fs root suffixes (.entry p name kind) =
              some (skippedRecord p) := by
            simp [recordOf, findingOf, hfile, hmatch, Finding.record?, skippedRecord]
          rw [List.filterMap_cons_none hsource, List.filterMap_cons_some hrecord]
          exact .skipped (isFileEntry_iff.mp hfile) (fun h => hmatch (matchesSuffixes_iff.mpr h)) ih
      · have hsource : sourceOf fs suffixes (.entry p name kind) = none := by
          rw [sourceOf_entry, if_neg fun h => hfile h.1]
        have hrecord : recordOf fs root suffixes (.entry p name kind) = none := by
          simp [recordOf, findingOf, hfile]
        rw [List.filterMap_cons_none hsource, List.filterMap_cons_none hrecord]
        exact .passed (fun h => hfile (isFileEntry_iff.mpr h)) ih

/-- A discovery reads the walk below its root. -/
theorem noted_discover {fs : FileSystem} {root : String} {steps : List Step}
    (h : fs.walk? root = some steps) (suffixes : List String) :
    Noted fs root suffixes steps (discover fs root suffixes).files
      (discover fs root suffixes).records := by
  rw [files_of_walk h, records_of_walk h]
  exact noted_filterMap fs root suffixes steps

/-- Below a root that leads to no directory nothing is found, and one record says so. -/
theorem discover_of_no_walk {fs : FileSystem} {root : String} (h : fs.walk? root = none)
    (suffixes : List String) :
    discover fs root suffixes =
      ⟨[], [⟨.warn, .discovery, "Source directory not found: " ++ root⟩]⟩ := by
  simp only [discover, findings?, h, Option.map_none, rootMissing]

theorem walk?_eq_none {fs : FileSystem} {root : String}
    (h : ∀ place fault inside, fs.resolve root ≠ .ok (.directory place fault inside)) :
    fs.walk? root = none := by
  rw [Option.eq_none_iff_forall_ne_some]
  intro steps hsteps
  obtain ⟨place, fault, inside, hr, -⟩ := walk?_eq_some_iff.mp hsteps
  exact h place fault inside hr

/-! ## 3. Sharing out the file entries -/

/-- The record of a skipped file names the file. -/
theorem skippedRecord_inj {p q : String} (h : skippedRecord p = skippedRecord q) : p = q := by
  simp only [skippedRecord, Record.mk.injEq, true_and] at h
  have hlist := congrArg String.toList h
  simp only [String.toList_append] at hlist
  exact String.toList_inj.mp (List.append_cancel_left (List.append_cancel_right hlist))

theorem unreadableRecord_ne_skippedRecord (root p q : String) (e : Errno) :
    unreadableRecord root p e ≠ skippedRecord q := by
  intro h
  simp [unreadableRecord, skippedRecord] at h

namespace Noted

variable {fs : FileSystem} {root : String} {suffixes : List String} {steps : List Step}
  {files : List String} {records : List Record}

/-- What is found or skipped is an entry of the walk. -/
theorem exists_entry (h : Noted fs root suffixes steps files records) {p : String}
    (hp : p ∈ files ∨ skippedRecord p ∈ records) :
    ∃ name kind, Step.entry p name kind ∈ steps ∧ IsFileEntry fs p kind := by
  have weaken : ∀ {s : Step} {steps : List Step},
      (∃ name kind, Step.entry p name kind ∈ steps ∧ IsFileEntry fs p kind) →
      ∃ name kind, Step.entry p name kind ∈ s :: steps ∧ IsFileEntry fs p kind :=
    fun ⟨name, kind, hs, hfile⟩ => ⟨name, kind, List.mem_cons_of_mem _ hs, hfile⟩
  induction h with
  | done => simp at hp
  | unreadable q e _ ih =>
    have hne := (unreadableRecord_ne_skippedRecord root q p e).symm
    exact weaken (ih (hp.imp_right fun hr => (List.mem_cons.mp hr).resolve_left hne))
  | @found _ _ _ q name kind hfile _ _ ih =>
    rcases hp with hp | hp
    · rcases List.mem_cons.mp hp with rfl | hp
      · exact ⟨name, kind, List.mem_cons_self, hfile⟩
      · exact weaken (ih (Or.inl hp))
    · exact weaken (ih (Or.inr hp))
  | @skipped _ _ _ q name kind hfile _ _ ih =>
    rcases hp with hp | hp
    · exact weaken (ih (Or.inl hp))
    · rcases List.mem_cons.mp hp with e | hp
      · cases skippedRecord_inj e
        exact ⟨name, kind, List.mem_cons_self, hfile⟩
      · exact weaken (ih (Or.inr hp))
  | passed _ _ ih => exact weaken (ih hp)

/-- Entries that come behind another one in a walk have other paths. -/
theorem path_ne {p q name name' : String} {kind kind' : EntryKind}
    (hfirst : ∀ t ∈ steps, (Step.entry q name kind).key root < t.key root)
    (hs : Step.entry p name' kind' ∈ steps) : q ≠ p := by
  rintro rfl
  have hlt := hfirst _ hs
  simp only [Step.key, lt_self_iff_false] at hlt

/-- What is no entry of the walk is neither found nor skipped. -/
theorem counts_eq_zero (h : Noted fs root suffixes steps files records) {p : String}
    (hp : ∀ name kind, Step.entry p name kind ∉ steps) :
    files.count p = 0 ∧ records.count (skippedRecord p) = 0 := by
  have hnone : ¬ (p ∈ files ∨ skippedRecord p ∈ records) := fun hmem =>
    have ⟨name, kind, hs, _⟩ := h.exists_entry hmem
    hp name kind hs
  exact ⟨List.count_eq_zero.mpr fun hf => hnone (Or.inl hf),
    List.count_eq_zero.mpr fun hr => hnone (Or.inr hr)⟩

/-- Every file entry of a walk is either found or skipped, and only once. -/
theorem count_eq_one (h : Noted fs root suffixes steps files records)
    (ordered : steps.Pairwise fun s t => s.key root < t.key root) {p name : String}
    {kind : EntryKind} (hs : Step.entry p name kind ∈ steps) (hfile : IsFileEntry fs p kind) :
    files.count p + records.count (skippedRecord p) = 1 := by
  induction h with
  | done => simp at hs
  | unreadable q e _ ih =>
    have hs := (List.mem_cons.mp hs).resolve_left (by simp)
    rw [List.count_cons_of_ne (unreadableRecord_ne_skippedRecord root q p e)]
    exact ih ordered.of_cons hs
  | found _ _ hrest ih =>
    obtain ⟨hfirst, hordered⟩ := List.pairwise_cons.mp ordered
    rcases List.mem_cons.mp hs with e | hs
    · cases e
      obtain ⟨hfiles, hrecords⟩ :=
        hrest.counts_eq_zero fun _ _ hmem => path_ne hfirst hmem rfl
      rw [List.count_cons_self, hfiles, hrecords]
    · rw [List.count_cons_of_ne (path_ne hfirst hs)]
      exact ih hordered hs
  | skipped _ _ hrest ih =>
    obtain ⟨hfirst, hordered⟩ := List.pairwise_cons.mp ordered
    rcases List.mem_cons.mp hs with e | hs
    · cases e
      obtain ⟨hfiles, hrecords⟩ :=
        hrest.counts_eq_zero fun _ _ hmem => path_ne hfirst hmem rfl
      rw [List.count_cons_self, hfiles, hrecords]
    · rw [List.count_cons_of_ne fun e => path_ne hfirst hs (skippedRecord_inj e)]
      exact ih hordered hs
  | passed hnone _ ih =>
    obtain ⟨hfirst, hordered⟩ := List.pairwise_cons.mp ordered
    rcases List.mem_cons.mp hs with e | hs
    · cases e
      exact absurd hfile hnone
    · exact ih hordered hs

/-- The warnings among the records are the faults of the walk. -/
theorem warnings (h : Noted fs root suffixes steps files records) :
    records.filter (·.level = .warn) = steps.filterMap (warning? root) := by
  induction h with
  | done => rfl
  | unreadable p e _ ih =>
    have hstep : warning? root (.fault p e) = some (unreadableRecord root p e) := rfl
    rw [List.filterMap_cons_some hstep, ← ih]
    exact List.filter_cons_of_pos (by simp [unreadableRecord])
  | found _ _ _ ih | passed _ _ ih => exact ih
  | skipped _ _ _ ih =>
    rw [List.filter_cons_of_neg (by simp [skippedRecord])]
    exact ih

end Noted

/-! ## 4. The account of a discovery -/

/-- **Accounting of discovery.**  Below a root that leads to a directory there is one walk, and the
files and records of a discovery are the reading of it: in its order, one warning for each
directory that could not be opened, one record for each file that matches no suffix, and nothing
else.  Each file entry of the walk is found or noted as skipped, never both and only once.  Where
the root leads to no directory, one warning says so and nothing is found. -/
theorem discovery_accounted {fs : FileSystem} (wf : fs.WellFormed) (root : String)
    (suffixes : List String) :
    (∀ place fault inside, fs.resolve root = .ok (.directory place fault inside) →
      ∃ steps, fs.IsWalk root place steps ∧
        (∀ others, fs.IsWalk root place others → others = steps) ∧
        Noted fs root suffixes steps (discover fs root suffixes).files
          (discover fs root suffixes).records ∧
        ∀ p name kind, Step.entry p name kind ∈ steps → IsFileEntry fs p kind →
          (discover fs root suffixes).files.count p +
            (discover fs root suffixes).records.count (skippedRecord p) = 1) ∧
    ((∀ place fault inside, fs.resolve root ≠ .ok (.directory place fault inside)) →
      (discover fs root suffixes).files = [] ∧
      (discover fs root suffixes).records =
        [⟨.warn, .discovery, "Source directory not found: " ++ root⟩]) := by
  constructor
  · intro place fault inside hr
    have hwalk : fs.walk? root = some (inside.steps root fault) :=
      walk?_eq_some_iff.mpr ⟨place, fault, inside, hr, rfl⟩
    have hspec := FileSystem.isWalk_steps wf hr
    have hnoted := noted_discover hwalk suffixes
    exact ⟨_, hspec, fun others hothers => hspec.unique hothers, hnoted,
      fun p name kind hs hfile => hnoted.count_eq_one hspec.ordered hs hfile⟩
  · intro hr
    rw [discover_of_no_walk (walk?_eq_none hr)]
    exact ⟨rfl, rfl⟩

/-- In the example the walk has a fault at the closed directory, the file of notes is accounted for,
and below a link that leads nowhere there is nothing to account for. -/
theorem sample_accounted : FileSystem.sample.WellFormed ∧
    (∃ steps, FileSystem.sample.IsWalk "link" ["here", "src"] steps ∧
      Noted FileSystem.sample "link" [".h", ".cpp"] steps
        (discover FileSystem.sample "link" [".h", ".cpp"]).files
        (discover FileSystem.sample "link" [".h", ".cpp"]).records ∧
      Step.fault "link/closed" ⟨13⟩ ∈ steps ∧
      (discover FileSystem.sample "link" [".h", ".cpp"]).files.count "link/notes.txt" +
        (discover FileSystem.sample "link" [".h", ".cpp"]).records.count
          (skippedRecord "link/notes.txt") = 1) ∧
    (discover FileSystem.sample "link/a/gone.h" [".h"]).records =
      [⟨.warn, .discovery, "Source directory not found: " ++ "link/a/gone.h"⟩] := by
  have wf : FileSystem.sample.WellFormed := by decide
  have hopen : ∀ front : List String, front <+: [] →
      FileSystem.sample.CanOpen (["here", "src"] ++ front) (Path.extend "link" front) := by
    intro front hfront
    rw [List.prefix_nil.mp hfront]
    exact ⟨by decide +kernel, FileSystem.sampleSources, by decide +kernel⟩
  refine ⟨wf, ?_, ?_⟩
  · obtain ⟨steps, hwalk, -, hnoted, hcount⟩ :=
      (discovery_accounted wf "link" [".h", ".cpp"]).1 ["here", "src"] none
        FileSystem.sampleSources (by decide +kernel)
    refine ⟨steps, hwalk, hnoted, (hwalk.faults _ _).mpr ?_,
      hcount "link/notes.txt" "notes.txt" .file ?_ (Or.inl rfl)⟩
    · refine ⟨["closed"], by decide +kernel, forall_prefix_snoc.mpr hopen, ?_⟩
      exact ⟨some ⟨13⟩, .leaf "hidden.h" (.file 2) .nil, by decide +kernel, by decide +kernel⟩
    · exact (hwalk.entries _ _ _).mpr
        ⟨[], .leaf (.file 3), by decide +kernel, hopen, by decide +kernel, rfl⟩
  · refine ((discovery_accounted wf "link/a/gone.h" [".h"]).2 ?_).2
    intro place fault inside hr
    have hnothing : FileSystem.sample.resolve "link/a/gone.h" = .error .noEntry := by
      decide +kernel
    rw [hnothing] at hr
    cases hr

end TidyTree
