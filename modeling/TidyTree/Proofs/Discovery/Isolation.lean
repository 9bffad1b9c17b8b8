/-
TidyTree.Proofs.Discovery.Isolation — unreadable directories cost what
lies below them, and nothing else.

Shutting directories takes the steps below them out of the walk and puts
a fault behind the entry of each that was open (`afterShut`).  That this
is the walk of the changed file system is shown by what a walk is, not
by how it is done: the steps are the right ones and in order
(`isWalk_afterShut`), and there is only one such walk.
-/
import TidyTree.Proofs.Discovery.Records
import TidyTree.Proofs.FileSystem.Shut
import TidyTree.Proofs.Runner.Snapshot

namespace TidyTree

variable {why : List String → Option Errno} {place : List String} {root : String}

/-! ## 1. Below a shut directory -/

/-- A directory that comes before the end of the chain of names is shut; the chain leads on from
`place`. -/
def isBelowShut (why : List String → Option Errno) (place names : List String) : Bool :=
  (List.range names.length).any fun n => (why (place ++ names.take n)).isSome

theorem isBelowShut_eq_false_iff {names : List String} :
    isBelowShut why place names = false ↔
      ∀ front, front <+: names → front ≠ names → why (place ++ front) = none := by
  simp only [isBelowShut, List.any_eq_false, List.mem_range, Option.isSome_iff_ne_none, ne_eq,
    Decidable.not_not]
  constructor
  · intro h front hfront hne
    have hlength : front.length < names.length :=
      lt_of_le_of_ne hfront.length_le fun e => hne (hfront.eq_of_length e)
    have htake := h front.length hlength
    rwa [← List.prefix_iff_eq_take.mp hfront] at htake
  · intro h n hn
    refine h (names.take n) (List.take_prefix n names) fun e => ?_
    have hlength := congrArg List.length e
    rw [List.length_take] at hlength
    omega

/-- The path that a step is about. -/
def Step.path : Step → String
  | .entry p _ _ => p
  | .fault p _ => p

/-- The step is about nothing below a directory that is shut. -/
def Step.stays (why : List String → Option Errno) (root : String) (place : List String)
    (s : Step) : Bool :=
  !isBelowShut why place (Path.below root s.path)

theorem Step.stays_iff {s : Step} :
    s.stays why root place = true ↔ ∀ front, front <+: Path.below root s.path →
      front ≠ Path.below root s.path → why (place ++ front) = none := by
  rw [stays, Bool.not_eq_true', isBelowShut_eq_false_iff]

/-- Whether a directory can be opened can be checked. -/
instance (fs : FileSystem) (place : List String) (path : String) :
    Decidable (fs.CanOpen place path) :=
  decidable_of_iff
    (Path.isTooLong path = false ∧ (fs.directory? place).map (·.1) = some none)
    (by simp [FileSystem.CanOpen])

/-- The fault of a directory that is shut and could be opened before. -/
def newFaults (fs : FileSystem) (why : List String → Option Errno) (root : String)
    (place : List String) : Step → List Step
  | .entry p _ .directory =>
    if fs.CanOpen (place ++ Path.below root p) p then
      match why (place ++ Path.below root p) with
      | some e => [.fault p e]
      | none => []
    else []
  | _ => []

/-- The steps of a walk after directories were shut: those below them are gone, and behind each of
them that could be opened there is a fault. -/
def afterShut (fs : FileSystem) (why : List String → Option Errno) (root : String)
    (place : List String) (steps : List Step) : List Step :=
  (steps.filter (Step.stays why root place)).flatMap fun s => s :: newFaults fs why root place s

theorem mem_newFaults {fs : FileSystem} {s t : Step} :
    t ∈ newFaults fs why root place s ↔
      ∃ p name e, s = .entry p name .directory ∧ t = .fault p e ∧
        fs.CanOpen (place ++ Path.below root p) p ∧ why (place ++ Path.below root p) = some e := by
  cases s with
  | fault p e => simp [newFaults]
  | entry p name kind =>
    cases kind with
    | file | link | special => simp [newFaults]
    | directory =>
      simp only [newFaults]
      split
      · next hopen =>
        cases hwhy : why (place ++ Path.below root p) with
        | none => simp [hwhy]
        | some e => simp [hwhy, hopen]
      · next hopen => simp [hopen]

theorem entry_mem_afterShut {fs : FileSystem} {steps : List Step} {p name : String}
    {kind : EntryKind} :
    .entry p name kind ∈ afterShut fs why root place steps ↔
      .entry p name kind ∈ steps ∧ (Step.entry p name kind).stays why root place = true := by
  simp [afterShut, mem_newFaults, List.mem_flatMap]

theorem fault_mem_afterShut {fs : FileSystem} {steps : List Step} {p : String} {e : Errno} :
    .fault p e ∈ afterShut fs why root place steps ↔
      (.fault p e ∈ steps ∧ (Step.fault p e).stays why root place = true) ∨
      ∃ name, .entry p name .directory ∈ steps ∧
        (Step.entry p name .directory).stays why root place = true ∧
        fs.CanOpen (place ++ Path.below root p) p ∧ why (place ++ Path.below root p) = some e := by
  simp only [afterShut, List.mem_flatMap, List.mem_filter, List.mem_cons, mem_newFaults]
  constructor
  · rintro ⟨s, ⟨hs, hstays⟩, rfl | ⟨q, name, e', rfl, he, hopen, hwhy⟩⟩
    · exact Or.inl ⟨hs, hstays⟩
    · cases he
      exact Or.inr ⟨name, hs, hstays, hopen, hwhy⟩
  · rintro (⟨hs, hstays⟩ | ⟨name, hs, hstays, hopen, hwhy⟩)
    · exact ⟨_, ⟨hs, hstays⟩, Or.inl rfl⟩
    · exact ⟨_, ⟨hs, hstays⟩, Or.inr ⟨p, name, e, rfl, rfl, hopen, hwhy⟩⟩

/-! ## 2. The walk after directories were shut -/

section Walks

variable {fs : FileSystem} {fault : Option Errno} {inside : Listing} {steps : List Step}

theorem stays_entry_iff {dirs : List String} {name : String} {kind : EntryKind}
    (hnames : ∀ n ∈ dirs ++ [name], Path.IsName n) :
    (Step.entry (Path.extend root (dirs ++ [name])) name kind).stays why root place = true ↔
      ∀ front, front <+: dirs → why (place ++ front) = none := by
  rw [Step.stays_iff, Step.path, Path.below_extend hnames, forall_prefix_snoc]

theorem stays_fault_iff {dirs : List String} {e : Errno} (hnames : ∀ n ∈ dirs, Path.IsName n) :
    (Step.fault (Path.extend root dirs) e).stays why root place = true ↔
      ∀ front, front <+: dirs → front ≠ dirs → why (place ++ front) = none := by
  rw [Step.stays_iff, Step.path, Path.below_extend hnames]

theorem not_refuses_of_canOpen {path : String} {e : Errno} (h : fs.CanOpen place path) :
    ¬ fs.Refuses place path e := by
  obtain ⟨hlong, inside, hd⟩ := h
  rw [FileSystem.refuses_iff hd]
  simp [openFault, hlong]

/-- A new fault stands right behind the entry of its directory. -/
theorem key_of_mem_newFaults {s t : Step} (ht : t ∈ newFaults fs why root place s) :
    t.key root = s.key root ++ [""] := by
  obtain ⟨p, name, e, rfl, rfl, -⟩ := mem_newFaults.mp ht
  rfl

theorem pairwise_newFaults (s : Step) (R : Step → Step → Prop) :
    (newFaults fs why root place s).Pairwise R := by
  unfold newFaults
  split
  · split
    · split
      · exact List.pairwise_singleton _ _
      · exact List.Pairwise.nil
    · exact List.Pairwise.nil
  · exact List.Pairwise.nil

/-- A step of the walk that comes behind the entry of a directory comes behind its new fault too:
the directory could be opened, so the walk had no fault there. -/
theorem newFault_before (wf : fs.WellFormed) (hd : fs.directory? place = some (fault, inside))
    (h : fs.IsWalk root place steps) {s t x : Step} (hs : s ∈ steps) (ht : t ∈ steps)
    (hlt : s.key root < t.key root) (hx : x ∈ newFaults fs why root place s) :
    x.key root < t.key root := by
  rw [key_of_mem_newFaults hx]
  refine snoc_empty_lt hlt fun hkey => ?_
  obtain ⟨p, name, e, rfl, rfl, hopen, -⟩ := mem_newFaults.mp hx
  obtain ⟨dirs, node, rfl, -, hentry, -⟩ := (h.entries _ _ _).mp hs
  have hnames := FileSystem.isName_of_entry wf hd hentry
  cases t with
  | entry q other kind =>
    obtain ⟨dirs', node', rfl, -, hentry', -⟩ := (h.entries _ _ _).mp ht
    have hothers := FileSystem.isName_of_entry wf hd hentry'
    rw [Step.key, Path.below_extend hothers] at hkey
    exact (hothers "" (by rw [hkey]; simp)).ne_empty rfl
  | fault q e' =>
    obtain ⟨dirs', rfl, -, hrefuse⟩ := (h.faults _ _).mp ht
    have hothers := FileSystem.isName_of_refuses wf hd hrefuse
    rw [Step.key, Step.key, Path.below_extend hothers, Path.below_extend hnames] at hkey
    rw [Path.below_extend hnames] at hopen
    cases List.append_cancel_right hkey
    exact not_refuses_of_canOpen hopen hrefuse

theorem pairwise_afterShut (wf : fs.WellFormed) (hd : fs.directory? place = some (fault, inside))
    (h : fs.IsWalk root place steps) :
    (afterShut fs why root place steps).Pairwise fun s t => s.key root < t.key root := by
  rw [afterShut, List.pairwise_flatMap]
  constructor
  · intro s _
    refine List.pairwise_cons.mpr ⟨fun t ht => ?_, pairwise_newFaults s _⟩
    rw [key_of_mem_newFaults ht]
    exact lt_snoc _ _
  · refine (h.ordered.filter _).imp_of_mem fun {s t} hs ht hlt x hx y hy => ?_
    have hs := (List.mem_filter.mp hs).1
    have ht := (List.mem_filter.mp ht).1
    have hxt : x.key root < t.key root := by
      rcases List.mem_cons.mp hx with rfl | hx
      · exact hlt
      · exact newFault_before wf hd h hs ht hlt hx
    rcases List.mem_cons.mp hy with rfl | hy
    · exact hxt
    · rw [key_of_mem_newFaults hy]
      exact hxt.trans (lt_snoc _ _)

/-- The walk of the file system with directories shut, said by the walk before. -/
theorem isWalk_afterShut (wf : fs.WellFormed) (hd : fs.directory? place = some (fault, inside))
    (h : fs.IsWalk root place steps) (htop : why [] = none) (hroot : why place = none) :
    (fs.shut why).IsWalk root place (afterShut fs why root place steps) := by
  refine ⟨fun p name kind => ?_, fun p e => ?_, pairwise_afterShut wf hd h⟩
  · rw [entry_mem_afterShut, h.entries]
    simp only [FileSystem.canOpen_shut_iff htop, FileSystem.entry?_shut htop]
    constructor
    · rintro ⟨⟨dirs, node, rfl, hopen, hentry, hkind⟩, hstays⟩
      rw [stays_entry_iff (FileSystem.isName_of_entry wf hd hentry)] at hstays
      exact ⟨dirs, _, rfl, fun front hfront => ⟨hopen front hfront, hstays front hfront⟩,
        by rw [hentry]; rfl, by rw [Node.kind_shut, hkind]⟩
    · rintro ⟨dirs, node', rfl, hopen, hentry', hkind⟩
      obtain ⟨node, hentry, rfl⟩ := Option.map_eq_some_iff.mp hentry'
      rw [Node.kind_shut] at hkind
      refine ⟨⟨dirs, node, rfl, fun front hfront => (hopen front hfront).1, hentry, hkind⟩, ?_⟩
      rw [stays_entry_iff (FileSystem.isName_of_entry wf hd hentry)]
      exact fun front hfront => (hopen front hfront).2
  · rw [fault_mem_afterShut]
    simp only [FileSystem.canOpen_shut_iff htop, FileSystem.refuses_shut_iff htop]
    constructor
    · rintro (⟨hs, hstays⟩ | ⟨name, hs, hstays, hopen, hwhy⟩)
      · obtain ⟨dirs, rfl, hopens, hrefuse⟩ := (h.faults _ _).mp hs
        have hnames := FileSystem.isName_of_refuses wf hd hrefuse
        rw [stays_fault_iff hnames] at hstays
        exact ⟨dirs, rfl,
          fun front hfront hne => ⟨hopens front hfront hne, hstays front hfront hne⟩,
          Or.inl hrefuse⟩
      · obtain ⟨dirs, node, rfl, hopens, hentry, -⟩ := (h.entries _ _ _).mp hs
        have hnames := FileSystem.isName_of_entry wf hd hentry
        rw [stays_entry_iff hnames] at hstays
        rw [Path.below_extend hnames] at hopen hwhy
        exact ⟨dirs ++ [name], rfl,
          forall_prefix_snoc.mpr fun front hfront => ⟨hopens front hfront, hstays front hfront⟩,
          Or.inr ⟨hopen, hwhy⟩⟩
    · rintro ⟨dirs, rfl, hopens, hrefuse | ⟨hopen, hwhy⟩⟩
      · have hnames := FileSystem.isName_of_refuses wf hd hrefuse
        refine Or.inl ⟨(h.faults _ _).mpr ⟨dirs, rfl, ?_, hrefuse⟩, (stays_fault_iff hnames).mpr ?_⟩
        · exact fun front hfront hne => (hopens front hfront hne).1
        · exact fun front hfront hne => (hopens front hfront hne).2
      · rcases List.eq_nil_or_concat dirs with rfl | ⟨front, name, rfl⟩
        · rw [List.append_nil, hroot] at hwhy
          cases hwhy
        · rw [List.concat_eq_append] at *
          rw [forall_prefix_snoc] at hopens
          obtain ⟨l, hentry⟩ := hopen.2
          rw [← List.append_assoc, FileSystem.directory?_snoc_iff] at hentry
          have hnames := FileSystem.isName_of_entry wf hd hentry
          refine Or.inr ⟨name, (h.entries _ _ _).mpr ⟨front, _, rfl, ?_, hentry, rfl⟩,
            (stays_entry_iff hnames).mpr ?_, ?_⟩
          · exact fun other hother => (hopens other hother).1
          · exact fun other hother => (hopens other hother).2
          · rw [Path.below_extend hnames]
            exact ⟨hopen, hwhy⟩

end Walks

/-! ## 3. Discovery after directories were shut -/

/-- What is left of the files of a discovery. -/
theorem filterMap_sourceOf_afterShut (fs : FileSystem) (suffixes : List String)
    (steps : List Step) :
    (afterShut fs why root place steps).filterMap (sourceOf fs suffixes) =
      (steps.filterMap (sourceOf fs suffixes)).filter
        fun p => !isBelowShut why place (Path.below root p) := by
  have hnew : ∀ s, (newFaults fs why root place s).filterMap (sourceOf fs suffixes) = [] := by
    intro s
    rw [List.filterMap_eq_nil_iff]
    intro t ht
    obtain ⟨p, name, e, -, rfl, -⟩ := mem_newFaults.mp ht
    rfl
  have hkept : (afterShut fs why root place steps).filterMap (sourceOf fs suffixes) =
      (steps.filter (Step.stays why root place)).filterMap (sourceOf fs suffixes) := by
    rw [afterShut, List.filterMap_flatMap, List.filterMap_eq_flatMap_toList]
    refine List.flatMap_congr fun s _ => ?_
    cases hs : sourceOf fs suffixes s with
    | none => rw [List.filterMap_cons_none hs, hnew]; rfl
    | some p => rw [List.filterMap_cons_some hs, hnew]; rfl
  rw [hkept, List.filterMap_filter, List.filter_filterMap]
  refine List.filterMap_congr fun s _ => ?_
  cases hs : sourceOf fs suffixes s with
  | none => simp
  | some p =>
    obtain ⟨name, kind, rfl, -⟩ := sourceOf_eq_some_iff.mp hs
    rfl

theorem isFileEntry_shut {fs : FileSystem} (htop : why [] = none) (path : String)
    (kind : EntryKind) : isFileEntry (fs.shut why) path kind = isFileEntry fs path kind := by
  cases kind with
  | link => exact FileSystem.isFile_shut htop path
  | file | directory | special => rfl

theorem sourceOf_shut {fs : FileSystem} (htop : why [] = none) (suffixes : List String) :
    sourceOf (fs.shut why) suffixes = sourceOf fs suffixes := by
  funext s
  cases s with
  | fault p e => rfl
  | entry p name kind =>
    rw [sourceOf_entry, sourceOf_entry, isFileEntry_shut htop]

theorem walk?_shut {fs : FileSystem} (wf : fs.WellFormed) {fault : Option Errno}
    {inside : Listing} (hr : fs.resolve root = .ok (.directory place fault inside))
    (htop : why [] = none) (hroot : why place = none) :
    (fs.shut why).walk? root = some (afterShut fs why root place (inside.steps root fault)) := by
  have hr' : (fs.shut why).resolve root =
      .ok (.directory place (fault.or (why place)) (inside.shut why place)) := by
    rw [FileSystem.resolve_shut htop, hr]
    rfl
  have hwalk := isWalk_afterShut wf (FileSystem.directory?_of_resolve hr)
    (FileSystem.isWalk_steps wf hr) htop hroot
  rw [walk?_eq_some_iff.mpr ⟨_, _, _, hr', rfl⟩, hwalk.unique (FileSystem.isWalk_steps wf.shut hr')]

/-- **Unreadable directories are isolated.**  Where listing fails for some directories below the
root, whatever error it gives, a discovery finds what it found before without what lies below them,
in the same order, and so a run formats the same files outside them.  The warnings are those of the
walk before that are not about something below them, with one more for each of them that the walk
came to and could open, right behind its entry. -/
theorem discover_shut {fs : FileSystem} (wf : fs.WellFormed) {fault : Option Errno}
    {inside : Listing} (hr : fs.resolve root = .ok (.directory place fault inside))
    (hbelow : ∀ shut, why shut ≠ none → ∃ names, names ≠ [] ∧ shut = place ++ names)
    (suffixes : List String) :
    (∀ path id, (fs.shut why).resolve path = .ok (.file id) ↔ fs.resolve path = .ok (.file id)) ∧
    (∀ dir path, (fs.shut why).CanOpen dir path ↔ fs.CanOpen dir path ∧ why dir = none) ∧
    (discover (fs.shut why) root suffixes).files = (discover fs root suffixes).files.filter
      (fun p => !isBelowShut why place (Path.below root p)) ∧
    (∃ steps, fs.IsWalk root place steps ∧
      (fs.shut why).IsWalk root place (afterShut fs why root place steps) ∧
      (discover fs root suffixes).records.filter (·.level = .warn) =
        steps.filterMap (warning? root) ∧
      (discover (fs.shut why) root suffixes).records.filter (·.level = .warn) =
        (afterShut fs why root place steps).filterMap (warning? root)) ∧
    ∀ (σ τ : Type) (r : Runner σ) (observe : Observer τ) (t : τ), r.config.rootDir = root →
      (r.runWith observe t (fs.shut why)).events.filterMap Event.called? =
        ((r.runWith observe t fs).events.filterMap Event.called?).filter
          (fun p => !isBelowShut why place (Path.below root p)) := by
  have hopen : ∀ dir, (∀ names, names ≠ [] → dir ≠ place ++ names) → why dir = none :=
    fun dir hdir => by_contra fun h =>
      have ⟨names, hne, e⟩ := hbelow dir h
      hdir names hne e
  have htop : why [] = none := hopen [] fun names hne e => hne (List.append_eq_nil_iff.mp e.symm).2
  have hroot : why place = none :=
    hopen place fun names hne e => hne (List.self_eq_append_right.mp e)
  have hwalk : fs.walk? root = some (inside.steps root fault) :=
    walk?_eq_some_iff.mpr ⟨place, fault, inside, hr, rfl⟩
  have hwalk' := walk?_shut wf hr htop hroot
  have hfiles : ∀ suffixes, (discover (fs.shut why) root suffixes).files =
      (discover fs root suffixes).files.filter
        fun p => !isBelowShut why place (Path.below root p) := by
    intro suffixes
    rw [files_of_walk hwalk, files_of_walk hwalk', sourceOf_shut htop]
    exact filterMap_sourceOf_afterShut fs suffixes _
  refine ⟨fun path id => ?_, fun dir path => FileSystem.canOpen_shut_iff htop, hfiles suffixes,
    ⟨_, FileSystem.isWalk_steps wf hr, ?_, (noted_discover hwalk suffixes).warnings,
      (noted_discover hwalk' suffixes).warnings⟩, fun σ τ r observe t hconfig => ?_⟩
  · rw [FileSystem.resolve_shut htop]
    cases fs.resolve path with
    | error e => simp [Except.map]
    | ok found => cases found <;> simp [Except.map, Resolved.shut]
  · exact isWalk_afterShut wf (FileSystem.directory?_of_resolve hr)
      (FileSystem.isWalk_steps wf hr) htop hroot
  · subst hconfig
    rw [r.called_runWith, r.called_runWith]
    exact hfiles r.config.suffixes

/-- The directory `a` of the example is shut, and so is the closed one once more. -/
def sampleShut (dir : List String) : Option Errno :=
  if dir = ["here", "src", "a"] ∨ dir = ["here", "src", "closed"] then some ⟨5⟩ else none

/-- In the example what lies below `a` is lost, and what lies below `a-b` is not. -/
theorem sample_shut : FileSystem.sample.WellFormed ∧
    (discover (FileSystem.sample.shut sampleShut) "link" [".h", ".cpp"]).files =
      (discover FileSystem.sample "link" [".h", ".cpp"]).files.filter
        (fun p => !isBelowShut sampleShut ["here", "src"] (Path.below "link" p)) ∧
    isBelowShut sampleShut ["here", "src"] (Path.below "link" "link/a/z.h") = true ∧
    isBelowShut sampleShut ["here", "src"] (Path.below "link" "link/a-b/deep.cpp") = false := by
  have wf : FileSystem.sample.WellFormed := by decide
  have hr : FileSystem.sample.resolve "link" =
      .ok (.directory ["here", "src"] none FileSystem.sampleSources) := by decide +kernel
  have hbelow : ∀ shut, sampleShut shut ≠ none →
      ∃ names, names ≠ [] ∧ shut = ["here", "src"] ++ names := by
    intro shut hshut
    unfold sampleShut at hshut
    split at hshut
    · next h =>
      rcases h with rfl | rfl
      · exact ⟨["a"], by simp, rfl⟩
      · exact ⟨["closed"], by simp, rfl⟩
    · exact absurd rfl hshut
  refine ⟨wf, (discover_shut wf hr hbelow [".h", ".cpp"]).2.2.1, ?_, ?_⟩
  · decide +kernel
  · decide +kernel

end TidyTree
