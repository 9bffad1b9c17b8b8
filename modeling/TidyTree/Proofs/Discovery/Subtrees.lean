/-
TidyTree.Proofs.Discovery.Subtrees — what a discovery finds below a
directory that it comes to.

A walk takes the steps below a directory one after the other
(`steps_infix`), by the paths by which the walk below that directory
alone would take them.  And its path leads to that directory
(`resolve_extend`), so that a discovery may start there.  The two agree,
and a discovery is put together from those of the directories in its
root; links are not entered.
-/
import TidyTree.Proofs.Discovery.Order
import TidyTree.Proofs.Discovery.Walked
import TidyTree.Proofs.FileSystem.Below

namespace TidyTree

/-! ## 1. Walks within walks -/

namespace Listing

variable {l inside i : Listing} {path name : String} {fault f g : Option Errno}
  {dirs more : List String}

/-- The steps of one entry come one after the other. -/
theorem block_infix (wf : l.WellFormed) (ho : openFault path fault = none) {node : Node}
    (hn : l.find? name = some node) : node.steps path name <:+: l.steps path fault := by
  rw [steps_of_open ho, inNameOrder, List.flatMap_def]
  refine List.infix_of_mem_flatten (List.mem_map.mpr ⟨(name, node.steps path name), ?_, rfl⟩)
  exact List.mem_mergeSort.mpr ((mem_blocks wf).mpr ⟨node, hn, rfl⟩)

/-- The steps below a directory that a walk comes to come one after the other. -/
theorem steps_infix (wf : l.WellFormed) (hopen : l.Opens path fault dirs)
    (hd : l.descend fault dirs = some (f, inside)) (hn : inside.find? name = some (.dir g i)) :
    i.steps (Path.extend path (dirs ++ [name])) g <:+: l.steps path fault := by
  induction dirs generalizing l path fault with
  | nil =>
    rw [descend_nil] at hd
    cases hd
    have hblock := block_infix wf (opens_nil.mp hopen) hn
    exact (List.suffix_cons _ _).isInfix.trans hblock
  | cons first dirs ih =>
    obtain ⟨ho, f', inside', hf, hopen'⟩ := opens_cons.mp hopen
    rw [descend_cons, hf] at hd
    have hblock := block_infix wf ho hf
    exact (ih (wf.inside hf) hopen' hd).trans ((List.suffix_cons _ _).isInfix.trans hblock)

/-- What can be opened behind a directory can be opened from there. -/
theorem Opens.behind (h : l.Opens path fault (dirs ++ more))
    (hd : l.descend fault dirs = some (f, inside)) :
    inside.Opens (Path.extend path dirs) f more := by
  intro front hfront
  obtain ⟨g, i, hi, ho⟩ := h (dirs ++ front) ((List.prefix_append_right_inj dirs).mpr hfront)
  rw [descend_append, hd, Option.bind_some] at hi
  rw [Path.extend_append] at ho
  exact ⟨g, i, hi, ho⟩

/-- A walk comes to an entry below a path by a chain of directories that goes on behind it. -/
theorem entry_below (wf : l.WellFormed) (hne : dirs ≠ []) (hdirs : ∀ n ∈ dirs, Path.IsName n)
    {p n : String} {kind : EntryKind} (hs : .entry p n kind ∈ l.steps path fault)
    (hbelow : Path.IsBelow (Path.extend path dirs) p) :
    ∃ more f inside node, l.Opens path fault (dirs ++ more) ∧
      l.descend fault (dirs ++ more) = some (f, inside) ∧ inside.find? n = some node ∧
      node.kind = kind ∧ p = Path.extend path (dirs ++ (more ++ [n])) := by
  obtain ⟨chain, f, inside, node, hopen, hd, hn, hkind, rfl⟩ := (entry_mem_steps wf).mp hs
  obtain ⟨behind, hbehind, hchain⟩ :=
    (Path.isBelow_extend_iff hne hdirs (wf.isName_of_chain hd hn)).mp hbelow
  rcases List.eq_nil_or_concat behind with rfl | ⟨more, last, rfl⟩
  · exact absurd rfl hbehind
  · rw [List.concat_eq_append, ← List.append_assoc] at hchain
    obtain ⟨rfl, hlast⟩ := List.append_inj' hchain rfl
    cases hlast
    exact ⟨more, f, inside, node, hopen, hd, hn, hkind, by rw [List.append_assoc]⟩

/-- A walk comes to an entry below a directory within the walk through that directory. -/
theorem entry_mem_inside (wf : l.WellFormed) (hd : l.descend fault dirs = some (f, inside))
    (hn : inside.find? name = some (.dir g i)) {p n : String} {kind : EntryKind}
    (hs : .entry p n kind ∈ l.steps path fault)
    (hbelow : Path.IsBelow (Path.extend path (dirs ++ [name])) p) :
    .entry p n kind ∈ i.steps (Path.extend path (dirs ++ [name])) g := by
  have hi : l.descend fault (dirs ++ [name]) = some (g, i) := by
    rw [descend_append, hd, Option.bind_some, descend_cons, hn]
    exact descend_nil g i
  obtain ⟨more, f', l', node, hopen, hl, hnode, hkind, rfl⟩ :=
    entry_below wf (by simp) (wf.isName_of_chain hd hn) hs hbelow
  rw [descend_append, hi, Option.bind_some] at hl
  exact (entry_mem_steps (wf.descend hi)).mpr
    ⟨more, f', l', node, hopen.behind hi, hl, hnode, hkind, Path.extend_append _ _ _⟩

/-- A walk comes to nothing below an entry that is no directory. -/
theorem not_below_leaf (wf : l.WellFormed) (hd : l.descend fault dirs = some (f, inside))
    {lf : Leaf} (hn : inside.find? name = some (.leaf lf)) {p n : String} {kind : EntryKind}
    (hs : .entry p n kind ∈ l.steps path fault) :
    ¬ Path.IsBelow (Path.extend path (dirs ++ [name])) p := by
  intro hbelow
  obtain ⟨more, f', l', node, -, hl, -⟩ :=
    entry_below wf (by simp) (wf.isName_of_chain hd hn) hs hbelow
  rw [List.append_assoc, descend_append, hd, Option.bind_some, List.singleton_append, descend_cons,
    hn] at hl
  cases hl

/-! ## 2. The entries of one directory -/

/-- The entries, in the order in which they are kept. -/
def entries : Listing → List (String × Node)
  | nil => []
  | leaf name lf rest => (name, .leaf lf) :: rest.entries
  | dir name fault inside rest => (name, .dir fault inside) :: rest.entries

theorem entries_cons (name : String) (node : Node) (rest : Listing) :
    (cons name node rest).entries = (name, node) :: rest.entries := by
  cases node <;> rfl

theorem map_fst_entries (l : Listing) : l.entries.map (·.1) = l.names := by
  induction l using cons_induction with
  | nil => rfl
  | cons n node rest ih => rw [entries_cons, List.map_cons, ih, names_cons]

theorem blocks_eq_map_entries (l : Listing) (path : String) :
    l.blocks path = l.entries.map fun e => (e.1, e.2.steps path e.1) := by
  induction l using cons_induction with
  | nil => rfl
  | cons n node rest ih => rw [entries_cons, blocks_cons, List.map_cons, ih]

theorem mem_entries_iff (wf : l.WellFormed) {node : Node} :
    (name, node) ∈ l.entries ↔ l.find? name = some node := by
  induction l using cons_induction with
  | nil => simp [entries, find?]
  | cons n first rest ih =>
    obtain ⟨-, hfresh, -, hrest⟩ := wellFormed_cons.mp wf
    rw [entries_cons, List.mem_cons, ih hrest, find?_cons]
    by_cases e : n = name
    · have hnone : rest.find? name ≠ some node := fun hf => ne_of_find? hfresh hf e
      simp [e, hnone, eq_comm]
    · simp [e, Ne.symm e]

/-- A walk through a directory that can be opened is that of its entries, one after the other in the
order of their names. -/
theorem steps_eq_flatMap_entries (ho : openFault path fault = none) (l : Listing) :
    l.steps path fault =
      (l.entries.mergeSort nameOrder).flatMap fun e => e.2.steps path e.1 := by
  have hsorted : (l.blocks path).mergeSort nameOrder =
      (l.entries.mergeSort nameOrder).map fun e => (e.1, e.2.steps path e.1) := by
    rw [blocks_eq_map_entries, List.map_mergeSort (s := nameOrder)]
    intro a _ b _
    rfl
  rw [steps_of_open ho, inNameOrder, hsorted, List.flatMap_map]

end Listing

/-! ## 3. Discoveries within discoveries -/

variable {fs : FileSystem} {root name : String} {place dirs : List String}
  {fault f g : Option Errno} {inside l i : Listing}

theorem openFault_eq_none_iff {path : String} :
    openFault path fault = none ↔ Path.isTooLong path = false ∧ fault = none := by
  unfold openFault
  cases Path.isTooLong path <;> simp

/-- The path by which a walk comes to a directory leads there. -/
theorem resolve_extend (wf : inside.WellFormed)
    (hr : fs.resolve root = .ok (.directory place fault inside))
    (hopen : inside.Opens root fault dirs) (hd : inside.descend fault dirs = some (f, l)) :
    fs.resolve (Path.extend root dirs) = .ok (.directory (place ++ dirs) f l) := by
  induction dirs generalizing root place fault inside with
  | nil =>
    rw [Listing.descend_nil] at hd
    cases hd
    rw [Path.extend_nil, List.append_nil, hr]
  | cons first dirs ih =>
    obtain ⟨-, g, i, hf, hopen'⟩ := Listing.opens_cons.mp hopen
    rw [Listing.descend_cons, hf] at hd
    have hentry : fs.entry? place first = some (.dir g i) :=
      (FileSystem.entry?_eq_find? (FileSystem.directory?_of_resolve hr) _).trans hf
    have hshort := (openFault_eq_none_iff.mp hopen'.here).1
    have hnext := FileSystem.resolve_join (wf.isName_of_find? hf) hr hentry hshort
    rw [Path.extend_cons, ih (wf.inside hf) hnext hopen' hd, List.append_assoc]
    rfl

/-- A discovery that starts at an entry of a directory reads the walk through the entry, also if
the path is too long to start there. -/
theorem files_join (wf : inside.WellFormed)
    (hr : fs.resolve root = .ok (.directory place fault inside))
    (hn : inside.find? name = some (.dir g i)) (suffixes : List String) :
    (discover fs (Path.join root name) suffixes).files =
      (i.steps (Path.join root name) g).filterMap (sourceOf fs suffixes) := by
  cases hlong : Path.isTooLong (Path.join root name) with
  | true =>
    obtain ⟨e, he⟩ := fs.resolve_eq_error_of_isTooLong hlong
    have hwalk : fs.walk? (Path.join root name) = none := by
      simp only [FileSystem.walk?, he]
    have hfault : openFault (Path.join root name) g = some .nameTooLong := by
      simp [openFault, hlong]
    rw [files_of_no_walk hwalk, Listing.steps_of_fault hfault]
    rfl
  | false =>
    have hentry : fs.entry? place name = some (.dir g i) :=
      (FileSystem.entry?_eq_find? (FileSystem.directory?_of_resolve hr) _).trans hn
    have hnext := FileSystem.resolve_join (wf.isName_of_find? hn) hr hentry hlong
    exact files_of_walk (walk?_eq_some_iff.mpr ⟨_, _, _, hnext, rfl⟩) suffixes

/-- What a discovery finds comes from an entry of the walk. -/
theorem exists_entry_of_mem_filterMap {suffixes : List String} {steps : List Step} {p : String}
    (h : p ∈ steps.filterMap (sourceOf fs suffixes)) : ∃ n kind, .entry p n kind ∈ steps := by
  obtain ⟨s, hs, hsource⟩ := List.mem_filterMap.mp h
  obtain ⟨n, kind, rfl, -⟩ := sourceOf_eq_some_iff.mp hsource
  exact ⟨n, kind, hs⟩

/-- What a discovery finds below a directory is what it finds there alone. -/
theorem files_subtree (wf : fs.WellFormed)
    (hr : fs.resolve root = .ok (.directory place fault inside)) {d name : String}
    (hs : .entry d name .directory ∈ inside.steps root fault) (suffixes : List String) :
    ∃ before after, (discover fs root suffixes).files =
        before ++ (discover fs d suffixes).files ++ after ∧
      (∀ p ∈ (discover fs d suffixes).files, Path.IsBelow d p) ∧
      ∀ p ∈ before ++ after, ¬ Path.IsBelow d p := by
  have hinside := wf.inside (FileSystem.directory?_of_resolve hr)
  have hnodup := (FileSystem.isWalk_steps wf hr).nodup
  obtain ⟨dirs, f, l, node, hopen, hd, hn, hkind, rfl⟩ := (Listing.entry_mem_steps hinside).mp hs
  obtain ⟨g, i, rfl⟩ : ∃ g i, node = .dir g i := by
    cases node with
    | dir g i => exact ⟨g, i, rfl⟩
    | leaf lf => cases lf <;> cases hkind
  have hnames := hinside.isName_of_chain hd hn
  have hfiles : (discover fs (Path.extend root (dirs ++ [name])) suffixes).files =
      (i.steps (Path.extend root (dirs ++ [name])) g).filterMap (sourceOf fs suffixes) := by
    rw [Path.extend_append]
    exact files_join (hinside.descend hd) (resolve_extend hinside hr hopen hd) hn suffixes
  obtain ⟨before, after, hsteps⟩ := Listing.steps_infix hinside hopen hd hn
  refine ⟨before.filterMap (sourceOf fs suffixes), after.filterMap (sourceOf fs suffixes),
    ?_, fun p hp => ?_, fun p hp hbelow => ?_⟩
  · rw [files_of_walk (walk?_eq_some_iff.mpr ⟨place, fault, inside, hr, rfl⟩), ← hsteps,
      List.filterMap_append, List.filterMap_append, hfiles]
  · obtain ⟨hpath, hne, hbelow⟩ := below_of_mem_files wf hp
    rw [hpath, ← Path.extend_append]
    refine (Path.isBelow_extend_iff (by simp) hnames fun n hn => ?_).mpr ⟨_, hne, rfl⟩
    exact (List.mem_append.mp hn).elim (hnames n) (hbelow n)
  · -- All steps below the directory are those within, and no step is taken twice.
    rw [← List.filterMap_append] at hp
    obtain ⟨n, kind, houtside⟩ := exists_entry_of_mem_filterMap hp
    have hmem : Step.entry p n kind ∈ inside.steps root fault := by
      rw [← hsteps]
      rcases List.mem_append.mp houtside with h | h <;> simp [h]
    have hwithin := Listing.entry_mem_inside hinside hd hn hmem hbelow
    rw [← hsteps, List.nodup_append, List.nodup_append] at hnodup
    obtain ⟨⟨-, -, hbefore⟩, -, hafter⟩ := hnodup
    rcases List.mem_append.mp houtside with h | h
    · exact hbefore _ h _ hwithin rfl
    · exact hafter _ (List.mem_append_right _ hwithin) _ h rfl

/-- A discovery finds nothing below a link. -/
theorem files_not_below_link (wf : fs.WellFormed)
    (hr : fs.resolve root = .ok (.directory place fault inside)) {d name : String}
    (hs : .entry d name .link ∈ inside.steps root fault) (suffixes : List String) :
    ∀ p ∈ (discover fs root suffixes).files, ¬ Path.IsBelow d p := by
  have hinside := wf.inside (FileSystem.directory?_of_resolve hr)
  obtain ⟨dirs, f, l, node, -, hd, hn, hkind, rfl⟩ := (Listing.entry_mem_steps hinside).mp hs
  obtain ⟨lf, rfl⟩ : ∃ lf, node = .leaf lf := by
    cases node with
    | leaf lf => exact ⟨lf, rfl⟩
    | dir g i => cases hkind
  intro p hp
  rw [files_of_walk (walk?_eq_some_iff.mpr ⟨place, fault, inside, hr, rfl⟩)] at hp
  obtain ⟨n, kind, hmem⟩ := exists_entry_of_mem_filterMap hp
  exact Listing.not_below_leaf hinside hd hn hmem

/-- A discovery finds nothing below a root that cannot be opened. -/
theorem files_of_closed (hr : fs.resolve root = .ok (.directory place fault inside))
    (hclosed : ¬ fs.CanOpen place root) (suffixes : List String) :
    (discover fs root suffixes).files = [] := by
  have hd := FileSystem.directory?_of_resolve hr
  rw [files_of_walk (walk?_eq_some_iff.mpr ⟨place, fault, inside, hr, rfl⟩)]
  cases ho : openFault root fault with
  | some e =>
    rw [Listing.steps_of_fault ho]
    rfl
  | none =>
    obtain ⟨hshort, rfl⟩ := openFault_eq_none_iff.mp ho
    exact absurd ⟨hshort, inside, hd⟩ hclosed

/-- What one entry of a directory adds to a discovery: itself if it is a file to format, and what a
discovery that starts there finds if it is a directory. -/
def Node.found (fs : FileSystem) (suffixes : List String) (path name : String) :
    Node → List String
  | .dir _ _ => (discover fs path suffixes).files
  | .leaf l => if isFileEntry fs path l.kind ∧ matchesSuffixes suffixes name then [path] else []

theorem found_eq_filterMap (wf : inside.WellFormed)
    (hr : fs.resolve root = .ok (.directory place fault inside)) {node : Node}
    (hn : inside.find? name = some node) (suffixes : List String) :
    (node.steps root name).filterMap (sourceOf fs suffixes) =
      node.found fs suffixes (Path.join root name) name := by
  cases node with
  | leaf lf =>
    simp only [Node.steps, List.filterMap_cons, List.filterMap_nil, sourceOf_entry, Node.found]
    by_cases h : isFileEntry fs (Path.join root name) lf.kind = true ∧
        matchesSuffixes suffixes name = true <;> simp [h]
  | dir g i =>
    rw [Node.steps, Node.found, files_join wf hr hn, List.filterMap_cons, sourceOf_entry]
    simp [isFileEntry]

/-- A discovery goes through the entries of its root in the order of their names. -/
theorem files_of_entries (wf : fs.WellFormed)
    (hr : fs.resolve root = .ok (.directory place fault inside)) (hopen : fs.CanOpen place root)
    (suffixes : List String) :
    ∃ entries : List (String × Node),
      (∀ name node, (name, node) ∈ entries ↔ fs.entry? place name = some node) ∧
      (entries.Pairwise fun a b => Text.utf8 a.1 < Text.utf8 b.1) ∧
      (discover fs root suffixes).files =
        entries.flatMap fun e => e.2.found fs suffixes (Path.join root e.1) e.1 := by
  have hd := FileSystem.directory?_of_resolve hr
  have hinside := wf.inside hd
  obtain ⟨hshort, l, hl⟩ := hopen
  rw [hd] at hl
  cases hl
  have ho : openFault root none = none := openFault_eq_none_iff.mpr ⟨hshort, rfl⟩
  have hmem : ∀ name node, (name, node) ∈ inside.entries.mergeSort nameOrder ↔
      fs.entry? place name = some node := fun name node => by
    rw [List.mem_mergeSort, Listing.mem_entries_iff hinside, FileSystem.entry?_eq_find? hd]
  have hdistinct : (inside.entries.map (·.1)).Nodup := by
    rw [Listing.map_fst_entries]
    exact hinside.nodup
  refine ⟨inside.entries.mergeSort nameOrder, hmem, ?_, ?_⟩
  · exact (pairwise_mergeSort_nameOrder_lt hdistinct).imp fun h => Text.utf8_lt_utf8 h
  · rw [files_of_walk (walk?_eq_some_iff.mpr ⟨place, none, inside, hr, rfl⟩),
      Listing.steps_eq_flatMap_entries ho, List.filterMap_flatMap]
    refine List.flatMap_congr fun e he => ?_
    rw [List.mem_mergeSort, Listing.mem_entries_iff hinside] at he
    exact found_eq_filterMap hinside hr he suffixes

/-- **Discoveries are put together from discoveries.**  For every directory that the walk below a
root comes to, what is found below it stands in one row, and is what a discovery finds that starts
there, by the same paths; below a link nothing is found, whatever it leads to.  So a discovery goes
through the entries of its root in the order of their names: each file to format is found, and for
each directory what a discovery there finds.  A root that cannot be opened, or leads to no
directory, gives nothing. -/
theorem discovery_of_subtrees {fs : FileSystem} (wf : fs.WellFormed) (root : String)
    (suffixes : List String) :
    (∀ place fault inside steps, fs.resolve root = .ok (.directory place fault inside) →
      fs.IsWalk root place steps →
      (∀ d name, .entry d name .directory ∈ steps →
        ∃ before after, (discover fs root suffixes).files =
            before ++ (discover fs d suffixes).files ++ after ∧
          (∀ p ∈ (discover fs d suffixes).files, Path.IsBelow d p) ∧
          ∀ p ∈ before ++ after, ¬ Path.IsBelow d p) ∧
      (∀ d name, .entry d name .link ∈ steps →
        ∀ p ∈ (discover fs root suffixes).files, ¬ Path.IsBelow d p) ∧
      (fs.CanOpen place root → ∃ entries : List (String × Node),
        (∀ name node, (name, node) ∈ entries ↔ fs.entry? place name = some node) ∧
        (entries.Pairwise fun a b => Text.utf8 a.1 < Text.utf8 b.1) ∧
        (discover fs root suffixes).files =
          entries.flatMap fun e => e.2.found fs suffixes (Path.join root e.1) e.1) ∧
      (¬ fs.CanOpen place root → (discover fs root suffixes).files = [])) ∧
    ((∀ place fault inside, fs.resolve root ≠ .ok (.directory place fault inside)) →
      (discover fs root suffixes).files = []) := by
  refine ⟨fun place fault inside steps hr hwalk => ?_, fun hnone => ?_⟩
  · obtain rfl := hwalk.unique (FileSystem.isWalk_steps wf hr)
    exact ⟨fun d name hs => files_subtree wf hr hs suffixes,
      fun d name hs => files_not_below_link wf hr hs suffixes,
      fun hopen => files_of_entries wf hr hopen suffixes,
      fun hclosed => files_of_closed hr hclosed suffixes⟩
  · refine files_of_no_walk ?_ suffixes
    rw [Option.eq_none_iff_forall_ne_some]
    intro steps hw
    obtain ⟨place, fault, inside, hr, -⟩ := walk?_eq_some_iff.mp hw
    exact hnone place fault inside hr

/-- In the example the sources below `a` stand in one row; a discovery that starts at the link
`back.h` in it finds something, and one that starts above finds nothing below the link. -/
theorem sample_subtrees : FileSystem.sample.WellFormed ∧
    (∃ before after, (discover FileSystem.sample "link" [".h", ".cpp"]).files =
        before ++ (discover FileSystem.sample "link/a" [".h", ".cpp"]).files ++ after ∧
      (∀ p ∈ (discover FileSystem.sample "link/a" [".h", ".cpp"]).files,
        Path.IsBelow "link/a" p) ∧
      ∀ p ∈ before ++ after, ¬ Path.IsBelow "link/a" p) ∧
    (discover FileSystem.sample "link/a/back.h" [".h", ".cpp"]).files ≠ [] ∧
    (∀ p ∈ (discover FileSystem.sample "link" [".h", ".cpp"]).files,
      ¬ Path.IsBelow "link/a/back.h" p) ∧
    (∃ entries : List (String × Node),
      (∀ name node, (name, node) ∈ entries ↔
        FileSystem.sample.entry? ["here", "src"] name = some node) ∧
      (entries.Pairwise fun a b => Text.utf8 a.1 < Text.utf8 b.1) ∧
      (discover FileSystem.sample "link" [".h", ".cpp"]).files = entries.flatMap fun e =>
        e.2.found FileSystem.sample [".h", ".cpp"] (Path.join "link" e.1) e.1) ∧
    (discover FileSystem.sample "link/closed" [".h", ".cpp"]).files = [] ∧
    (discover FileSystem.sample "nowhere" [".h", ".cpp"]).files = [] := by
  have wf : FileSystem.sample.WellFormed := by decide
  have hr : FileSystem.sample.resolve "link" =
      .ok (.directory ["here", "src"] none FileSystem.sampleSources) := by decide +kernel
  have hbelow : FileSystem.sample.resolve "link/a/back.h" =
      .ok (.directory ["here", "src"] none FileSystem.sampleSources) := by decide +kernel
  have hwalk := FileSystem.isWalk_steps wf hr
  have hopen : FileSystem.sample.CanOpen ["here", "src"] "link" :=
    ⟨by decide +kernel, FileSystem.sampleSources, rfl⟩
  have hopen' : ∀ front, front <+: ["a"] →
      FileSystem.sample.CanOpen (["here", "src"] ++ front) (Path.extend "link" front) := by
    intro front hfront
    rcases List.prefix_cons_iff.mp hfront with rfl | ⟨rest, rfl, hrest⟩
    · exact hopen
    · rw [List.prefix_nil.mp hrest]
      exact ⟨by decide +kernel, _, rfl⟩
  have hdir : .entry "link/a" "a" .directory ∈ FileSystem.sampleSources.steps "link" none :=
    (hwalk.entries _ _ _).mpr ⟨[], _, by decide +kernel, fun front hfront =>
      hopen' front (hfront.trans List.nil_prefix), rfl, rfl⟩
  have hlink : .entry "link/a/back.h" "back.h" .link ∈
      FileSystem.sampleSources.steps "link" none :=
    (hwalk.entries _ _ _).mpr ⟨["a"], _, by decide +kernel, hopen', rfl, rfl⟩
  have hback : ∃ kind,
      .entry "link/a/back.h/a.h" "a.h" kind ∈
        FileSystem.sampleSources.steps "link/a/back.h" none ∧
      isFileEntry FileSystem.sample "link/a/back.h/a.h" kind = true := by
    refine (entry_mem_steps_iff wf hbelow).mpr ⟨[], by decide +kernel, fun front hfront => ?_,
      Or.inl ⟨0, rfl⟩⟩
    rw [List.prefix_nil.mp hfront]
    exact ⟨by decide +kernel, FileSystem.sampleSources, rfl⟩
  have hfound : "link/a/back.h/a.h" ∈
      (discover FileSystem.sample "link/a/back.h" [".h", ".cpp"]).files := by
    obtain ⟨kind, hmem, hfile⟩ := hback
    exact mem_files_iff.mpr ⟨_, walk?_eq_some_iff.mpr ⟨_, _, _, hbelow, rfl⟩, "a.h", kind, hmem,
      hfile, by decide⟩
  have hclosed : FileSystem.sample.resolve "link/closed" = .ok (.directory ["here", "src", "closed"]
      (some ⟨13⟩) (.leaf "hidden.h" (.file 2) .nil)) := by decide +kernel
  have hshut : ¬ FileSystem.sample.CanOpen ["here", "src", "closed"] "link/closed" := by
    rintro ⟨-, inside, hd⟩
    cases (FileSystem.directory?_of_resolve hclosed).symm.trans hd
  have hnowhere : FileSystem.sample.resolve "nowhere" = .error .noEntry := by decide +kernel
  obtain ⟨hsubtrees, hlinks, hentries, -⟩ :=
    (discovery_of_subtrees wf "link" [".h", ".cpp"]).1 _ _ _ _ hr hwalk
  refine ⟨wf, hsubtrees _ _ hdir, List.ne_nil_of_mem hfound, hlinks _ _ hlink, hentries hopen,
    ?_, ?_⟩
  · exact ((discovery_of_subtrees wf "link/closed" [".h", ".cpp"]).1 _ _ _ _ hclosed
      (FileSystem.isWalk_steps wf hclosed)).2.2.2 hshut
  · refine (discovery_of_subtrees wf "nowhere" [".h", ".cpp"]).2 fun place fault inside h => ?_
    rw [hnowhere] at h
    cases h

end TidyTree
