/-
TidyTree.Proofs.Discovery.Spelling — what a discovery makes of the text
of its root.

The root stands as it was written in front of every path that is found
(`Path.extend_eq`).  Which paths these are behind the root is said by the
place that the root leads to, but for two limits: a path may be too long,
and a link may be one link too many for the system, because the links
through which the root leads count with it.  Where the walks of two roots
of one directory stay within both limits, they find the same.
-/
import Mathlib.Data.List.Induction
import Mathlib.Data.List.Sort
import TidyTree.Proofs.Discovery.Subtrees
import TidyTree.Proofs.FileSystem.Links

namespace TidyTree

/-! ## 1. The text of a path below a root -/

namespace Path

theorem chain_eq_intercalate (names : List String) :
    chain names = ("/".intercalate names).toList := by
  rw [String.toList_intercalate, show "/".toList = ['/'] from rfl]
  induction names with
  | nil => rfl
  | cons name names ih =>
    cases names with
    | nil => simp [chain]
    | cons next names => rw [chain, ih, List.map_cons, List.map_cons]; simp

/-- A path below a root is the root as it is written, with a slash unless there is one, and the
names with single slashes between them. -/
theorem extend_eq {root : String} {names : List String} (hne : names ≠ [])
    (h : ∀ n ∈ names, IsName n) :
    extend root names =
      (if endsInSlash root then root else root ++ "/") ++ "/".intercalate names := by
  rw [← String.toList_inj, toList_extend hne h, String.toList_append, chain_eq_intercalate, slashed]
  split <;> simp

end Path

/-! ## 2. What a discovery finds behind its root -/

variable {fs : FileSystem} {root other : String} {place dirs : List String} {fault : Option Errno}
  {inside : Listing} {others : List Step}

/-- What is found behind a root, said of the place that the root leads to. -/
theorem mem_map_below_iff (wf : fs.WellFormed)
    (hr : fs.resolve root = .ok (.directory place fault inside)) {suffixes names : List String} :
    names ∈ (discover fs root suffixes).files.map (Path.below root) ↔
      ∃ dirs name, names = dirs ++ [name] ∧
        (∀ front, front <+: dirs → fs.CanOpen (place ++ front) (Path.extend root front)) ∧
        fs.IsFileAt (place ++ dirs) name (Path.extend root names) ∧
        matchesSuffixes suffixes name = true := by
  have hd := FileSystem.directory?_of_resolve hr
  have hnames : ∀ {dirs name path}, fs.IsFileAt (place ++ dirs) name path →
      ∀ n ∈ dirs ++ [name], Path.IsName n := by
    rintro dirs name path (⟨id, hentry⟩ | ⟨target, hentry, -⟩) <;>
      exact FileSystem.isName_of_entry wf hd hentry
  rw [List.mem_map]
  constructor
  · rintro ⟨p, hp, rfl⟩
    obtain ⟨steps, hw, name, kind, hs, hfile, hmatch⟩ := mem_files_iff.mp hp
    rw [walk?_eq_some_iff.mpr ⟨place, fault, inside, hr, rfl⟩] at hw
    cases hw
    obtain ⟨dirs, rfl, hopen, hat⟩ := (entry_mem_steps_iff wf hr).mp ⟨kind, hs, hfile⟩
    rw [Path.below_extend (hnames hat)]
    exact ⟨dirs, name, rfl, hopen, hat, hmatch⟩
  · rintro ⟨dirs, name, rfl, hopen, hat, hmatch⟩
    obtain ⟨kind, hs, hfile⟩ := (entry_mem_steps_iff wf hr).mpr ⟨dirs, rfl, hopen, hat⟩
    refine ⟨Path.extend root (dirs ++ [name]), ?_, Path.below_extend (hnames hat)⟩
    exact mem_files_iff.mpr
      ⟨_, walk?_eq_some_iff.mpr ⟨place, fault, inside, hr, rfl⟩, name, kind, hs, hfile, hmatch⟩

/-! ## 3. Two roots of one directory -/

/-- Nothing is lost on a walk to the limits of the system: it comes to no path that is too long, and
to no link that would lead to a regular file if more links were followed. -/
structure FileSystem.WithinLimits (fs : FileSystem) (steps : List Step) : Prop where
  short : ∀ p name kind, .entry p name kind ∈ steps → Path.isTooLong p = false
  links : ∀ p name, .entry p name .link ∈ steps → fs.ReachesFile p →
    ∃ id, fs.resolve p = .ok (.file id)

/-- Directories without a fault can be opened on every walk on which paths stay short. -/
theorem canOpen_respelled (hr : fs.resolve other = .ok (.directory place fault inside))
    (hwalk : fs.IsWalk other place others) (hlimits : fs.WithinLimits others)
    (hopen : ∀ front, front <+: dirs → ∃ l, fs.directory? (place ++ front) = some (none, l)) :
    ∀ front, front <+: dirs → fs.CanOpen (place ++ front) (Path.extend other front) := by
  induction dirs using List.reverseRecOn with
  | nil =>
    intro front hfront
    have hshort : Path.isTooLong other = false := by
      cases hlong : Path.isTooLong other with
      | false => rfl
      | true =>
        obtain ⟨e, he⟩ := fs.resolve_eq_error_of_isTooLong hlong
        rw [hr] at he
        cases he
    rw [List.prefix_nil.mp hfront]
    exact ⟨hshort, hopen [] List.nil_prefix⟩
  | append_singleton dirs name ih =>
    have hbefore := ih fun front hfront => hopen front (hfront.trans (List.prefix_append _ _))
    intro front hfront
    rcases List.prefix_concat_iff.mp hfront with rfl | hfront
    · -- The walk comes to the directory, so its path is short.
      obtain ⟨l, hl⟩ := hopen _ (List.prefix_refl _)
      have hentry : fs.entry? (place ++ dirs) name = some (.dir none l) := by
        rwa [← FileSystem.directory?_snoc_iff, List.append_assoc]
      have hmem := (hwalk.entries _ name .directory).mpr ⟨dirs, _, rfl, hbefore, hentry, rfl⟩
      exact ⟨hlimits.short _ _ _ hmem, l, hl⟩
    · exact hbefore front hfront

/-- A file behind one root is a file behind the other, if links lead as far. -/
theorem isFileAt_respelled (wf : fs.WellFormed)
    (hr : fs.resolve root = .ok (.directory place fault inside))
    (hr' : fs.resolve other = .ok (.directory place fault inside))
    (hwalk : fs.IsWalk other place others) (hlimits : fs.WithinLimits others)
    (hopen : ∀ front, front <+: dirs → fs.CanOpen (place ++ front) (Path.extend root front))
    (hopen' : ∀ front, front <+: dirs → fs.CanOpen (place ++ front) (Path.extend other front))
    {name : String} (hat : fs.IsFileAt (place ++ dirs) name (Path.extend root (dirs ++ [name]))) :
    fs.IsFileAt (place ++ dirs) name (Path.extend other (dirs ++ [name])) := by
  rcases hat with ⟨id, hentry⟩ | ⟨target, hentry, id, hfile⟩
  · exact Or.inl ⟨id, hentry⟩
  · refine Or.inr ⟨target, hentry, ?_⟩
    have hd := FileSystem.directory?_of_resolve hr
    have hname := FileSystem.isName_of_entry wf hd hentry name (by simp)
    obtain ⟨f, l, hl, -⟩ := (FileSystem.entry?_append_eq_some_iff hd).mp hentry
    have hhere := resolve_extend (wf.inside hd) hr ((FileSystem.opens_iff_canOpen hd).mpr hopen) hl
    have hthere :=
      resolve_extend (wf.inside hd) hr' ((FileSystem.opens_iff_canOpen hd).mpr hopen') hl
    have hmem := (hwalk.entries _ name .link).mpr ⟨dirs, _, rfl, hopen', hentry, rfl⟩
    refine hlimits.links _ _ hmem ?_
    rw [Path.extend_append] at hfile ⊢
    exact (FileSystem.reachesFile_join hname hthere).mpr
      ((FileSystem.reachesFile_join hname hhere).mp (FileSystem.reachesFile_of_resolve hfile))

/-- What is found behind one root is found behind every other one of the directory, if its walk
stays within the limits. -/
theorem map_below_subset (wf : fs.WellFormed)
    (hr : fs.resolve root = .ok (.directory place fault inside))
    (hr' : fs.resolve other = .ok (.directory place fault inside))
    (hwalk : fs.IsWalk other place others) (hlimits : fs.WithinLimits others)
    (suffixes : List String) :
    (discover fs root suffixes).files.map (Path.below root) ⊆
      (discover fs other suffixes).files.map (Path.below other) := by
  intro names hmem
  obtain ⟨dirs, name, rfl, hopen, hat, hmatch⟩ := (mem_map_below_iff wf hr).mp hmem
  have hopen' := canOpen_respelled hr' hwalk hlimits fun front hfront => (hopen front hfront).2
  have hat' := isFileAt_respelled wf hr hr' hwalk hlimits hopen hopen' hat
  exact (mem_map_below_iff wf hr').mpr ⟨dirs, name, rfl, hopen', hat', hmatch⟩

theorem pairwise_map_below (wf : fs.WellFormed) (root : String) (suffixes : List String) :
    ((discover fs root suffixes).files.map (Path.below root)).Pairwise (· < ·) :=
  List.pairwise_map.mpr (pairwise_below_files wf root suffixes)

/-- **Paths keep the spelling of the root, and nothing else depends on it.**  Every file found is
the root as it is written, a slash unless the root ends in one, and names with single slashes
between them.  Two roots that lead to one directory, whatever their texts, give the same names in
the same order, as long as both walks stay within the limits of the system. -/
theorem files_keep_spelling (wf : fs.WellFormed) (root : String) (suffixes : List String) :
    (∀ p ∈ (discover fs root suffixes).files,
      p = (if Path.endsInSlash root then root else root ++ "/") ++
        "/".intercalate (Path.below root p) ∧
      Path.below root p ≠ [] ∧ ∀ name ∈ Path.below root p, name ≠ "" ∧ '/' ∉ name.toList) ∧
    ∀ other place fault inside steps others,
      fs.resolve root = .ok (.directory place fault inside) →
      fs.resolve other = .ok (.directory place fault inside) →
      fs.IsWalk root place steps → fs.IsWalk other place others →
      fs.WithinLimits steps → fs.WithinLimits others →
      (discover fs root suffixes).files.map (Path.below root) =
        (discover fs other suffixes).files.map (Path.below other) := by
  refine ⟨fun p hp => ?_,
    fun other place fault inside steps others hr hr' hwalk hwalk' hl hl' => ?_⟩
  · obtain ⟨hpath, hne, hnames⟩ := below_of_mem_files wf hp
    refine ⟨?_, hne, fun name hname => ⟨(hnames name hname).ne_empty, (hnames name hname).no_slash⟩⟩
    rw [← Path.extend_eq hne hnames]
    exact hpath
  · exact List.Subset.antisymm_of_pairwise (pairwise_map_below wf root suffixes)
      (pairwise_map_below wf other suffixes) (map_below_subset wf hr hr' hwalk' hl' suffixes)
      (map_below_subset wf hr' hr hwalk hl suffixes)

/-! ## 4. A link that is one too many -/

namespace FileSystem

/-- A directory with a file, a link to the directory itself, a link that goes through this one nine
times, and a link to the file that goes through that one twice. -/
def windingSources : Listing :=
  .leaf "a.h" (.link "lap/lap/b.h") (.leaf "b.h" (.file 0)
    (.leaf "lap" (.link "me/me/me/me/me/me/me/me/me") (.leaf "me" (.link ".") .nil)))

/-- The file system with this directory. -/
def winding : FileSystem := ⟨.dir "d" none windingSources .nil, [default], []⟩

theorem resolveFrom_here (links : Nat) :
    winding.resolveFrom links [] ["d"] = .ok (.directory ["d"] none windingSources) := by
  rw [resolveFrom_eq]
  rfl

theorem resolveFrom_rounds (n links : Nat) (cs : List String) :
    winding.resolveFrom (n + links) (List.replicate n "me" ++ cs) ["d"] =
      winding.resolveFrom links cs ["d"] := by
  induction n with
  | zero => rw [Nat.zero_add, List.replicate_zero, List.nil_append]
  | succ n ih =>
    have hround : winding.entry? ["d"] "me" = some (.leaf (.link ".")) := rfl
    have hcomponents : Path.components "." = ["."] := by decide
    have hstart : startOf "." ["d"] = ["d"] := by decide
    rw [Nat.succ_add, List.replicate_succ, List.cons_append, resolveFrom_cons (by decide), hround]
    dsimp only [afterLink]
    rw [hcomponents, hstart, ← ih, resolveFrom_eq, List.singleton_append, follow,
      if_pos (Or.inr rfl), ← resolveFrom_eq]

theorem resolveFrom_lap (links : Nat) (cs : List String) :
    winding.resolveFrom (links + 1) ("lap" :: cs) ["d"] =
      winding.resolveFrom links (List.replicate 9 "me" ++ cs) ["d"] := by
  have hlap : winding.entry? ["d"] "lap" =
    some (.leaf (.link "me/me/me/me/me/me/me/me/me")) := rfl
  have hcomponents : Path.components "me/me/me/me/me/me/me/me/me" = List.replicate 9 "me" := by
    decide
  have hstart : startOf "me/me/me/me/me/me/me/me/me" ["d"] = ["d"] := by decide
  rw [resolveFrom_cons (by decide), hlap]
  dsimp only [afterLink]
  rw [hcomponents, hstart]

/-- Going through `lap` takes ten links. -/
theorem resolveFrom_laps (n links : Nat) (cs : List String) :
    winding.resolveFrom (10 * n + links) (List.replicate n "lap" ++ cs) ["d"] =
      winding.resolveFrom links cs ["d"] := by
  induction n with
  | zero => rw [Nat.mul_zero, Nat.zero_add, List.replicate_zero, List.nil_append]
  | succ n ih =>
    have hcount : 10 * (n + 1) + links = 9 + (10 * n + links) + 1 := by omega
    rw [hcount, List.replicate_succ, List.cons_append, resolveFrom_lap, resolveFrom_rounds, ih]

theorem resolveFrom_twice (links : Nat) :
    winding.resolveFrom (links + 1) ["a.h"] ["d"] =
      winding.resolveFrom links (List.replicate 2 "lap" ++ ["b.h"]) ["d"] := by
  have htwice : winding.entry? ["d"] "a.h" = some (.leaf (.link "lap/lap/b.h")) := rfl
  have hcomponents : Path.components "lap/lap/b.h" = List.replicate 2 "lap" ++ ["b.h"] := by
    decide
  have hstart : startOf "lap/lap/b.h" ["d"] = ["d"] := by decide
  rw [resolveFrom_cons (by decide), htwice]
  dsimp only [afterLink]
  rw [hcomponents, hstart, List.append_nil]

/-- Twenty-one links lead from `a.h` to the file. -/
theorem resolveFrom_file (links : Nat) :
    winding.resolveFrom (21 + links) ["a.h"] ["d"] = .ok (.file 0) := by
  have hfile : winding.entry? ["d"] "b.h" = some (.leaf (.file 0)) := rfl
  rw [show 21 + links = 10 * 2 + links + 1 by omega, resolveFrom_twice, resolveFrom_laps,
    resolveFrom_cons (by decide), hfile]
  rfl

/-- Ten links do not. -/
theorem resolveFrom_lost : winding.resolveFrom 10 ["a.h"] ["d"] = .error .linkLoop := by
  have hround : winding.entry? ["d"] "me" = some (.leaf (.link ".")) := rfl
  calc winding.resolveFrom 10 ["a.h"] ["d"]
      = winding.resolveFrom (8 + 1) ("lap" :: ["lap", "b.h"]) ["d"] := resolveFrom_twice 9
    _ = winding.resolveFrom (8 + 0) (List.replicate 8 "me" ++ ["me", "lap", "b.h"]) ["d"] :=
        resolveFrom_lap 8 ["lap", "b.h"]
    _ = winding.resolveFrom 0 ("me" :: ["lap", "b.h"]) ["d"] := resolveFrom_rounds 8 0 _
    _ = .error .linkLoop := by
        rw [resolveFrom_cons (by decide), hround]
        rfl

/-- What a path that begins in `d` leads to is said by the components behind. -/
theorem resolve_winding (path : String) (cs : List String)
    (h : textFault path = none ∧ startOf path [] = [] ∧ Path.components path = "d" :: cs) :
    winding.resolve path = winding.resolveFrom 40 cs ["d"] := by
  have hd : winding.entry? [] "d" = some (.dir none windingSources) := rfl
  obtain ⟨hfault, hstart, hcomponents⟩ := h
  rw [resolve, hfault]
  dsimp only
  rw [hcomponents, show startOf path winding.workingDirectory = [] from hstart,
    resolveFrom_cons (by decide), hd]
  rfl

theorem resolve_d : winding.resolve "d" = .ok (.directory ["d"] none windingSources) :=
  resolve_winding "d" [] (by decide)

theorem resolve_laps :
    winding.resolve "d/lap/lap/lap" = .ok (.directory ["d"] none windingSources) := by
  rw [resolve_winding _ (List.replicate 3 "lap" ++ []) (by decide)]
  exact (resolveFrom_laps 3 10 []).trans (resolveFrom_here 10)

theorem resolve_file : winding.resolve "d/a.h" = .ok (.file 0) := by
  rw [resolve_winding _ ["a.h"] (by decide)]
  exact resolveFrom_file 19

theorem resolve_lost : winding.resolve "d/lap/lap/lap/a.h" = .error .linkLoop := by
  rw [resolve_winding _ (List.replicate 3 "lap" ++ ["a.h"]) (by decide)]
  exact (resolveFrom_laps 3 10 ["a.h"]).trans resolveFrom_lost

theorem steps_winding {path : String} (h : Path.isTooLong path = false) :
    windingSources.steps path none = [.entry (Path.join path "a.h") "a.h" .link,
      .entry (Path.join path "b.h") "b.h" .file, .entry (Path.join path "lap") "lap" .link,
      .entry (Path.join path "me") "me" .link] := by
  have hsorted : (windingSources.blocks path).Pairwise fun a b => nameOrder a b = true := by
    simp [windingSources, Listing.blocks, nameOrder]
  rw [Listing.steps_of_open (openFault_eq_none_iff.mpr ⟨h, rfl⟩), inNameOrder,
    List.mergeSort_of_pairwise hsorted]
  rfl

/-- The walk below a root of the directory comes to short paths, if its root is short. -/
theorem short_winding {path : String} (h : Path.isTooLong path = false)
    (hbelow : ∀ name ∈ ["a.h", "b.h", "lap", "me"],
      Path.isTooLong (Path.join path name) = false)
    {p name : String} {kind : EntryKind}
    (hs : .entry p name kind ∈ windingSources.steps path none) : Path.isTooLong p = false := by
  rw [steps_winding h] at hs
  simp only [List.mem_cons, Step.entry.injEq, List.not_mem_nil, or_false] at hs
  rcases hs with ⟨rfl, -⟩ | ⟨rfl, -⟩ | ⟨rfl, -⟩ | ⟨rfl, -⟩ <;> exact hbelow _ (by simp)

/-- The walk below a root that goes round at most nineteen times stays within the limits. -/
theorem withinLimits_winding {path : String} {rounds : Nat} (hrounds : rounds ≤ 19)
    (h : Path.isTooLong path = false)
    (hbelow : ∀ name ∈ ["a.h", "b.h", "lap", "me"],
      textFault (Path.join path name) = none ∧ startOf (Path.join path name) [] = [] ∧
        Path.components (Path.join path name) = "d" :: (List.replicate rounds "me" ++ [name])) :
    winding.WithinLimits (windingSources.steps path none) := by
  have hresolve : ∀ name ∈ ["a.h", "b.h", "lap", "me"], winding.resolve (Path.join path name) =
      winding.resolveFrom (21 + (19 - rounds)) [name] ["d"] := by
    intro name hname
    rw [resolve_winding _ _ (hbelow name hname), show 40 = rounds + (21 + (19 - rounds)) by omega]
    exact resolveFrom_rounds rounds _ [name]
  refine ⟨fun p name kind => short_winding h fun name hname => ?_, fun p name hs hfile => ?_⟩
  · exact (textFault_eq_none_iff.mp (hbelow name hname).1).2.1
  · rw [steps_winding h] at hs
    simp only [List.mem_cons, Step.entry.injEq, List.not_mem_nil, or_false, reduceCtorEq, and_false,
      false_or, and_true] at hs
    rcases hs with ⟨rfl, rfl⟩ | ⟨rfl, rfl⟩ | ⟨rfl, rfl⟩
    · exact ⟨0, (hresolve "a.h" (by simp)).trans (resolveFrom_file _)⟩
    · refine absurd hfile (not_reachesFile (r := .directory ["d"] none windingSources) ?_ (by simp))
      rw [hresolve "lap" (by simp),
        show 21 + (19 - rounds) = 10 * 1 + (11 + (19 - rounds)) by omega]
      exact (resolveFrom_laps 1 _ []).trans (resolveFrom_here _)
    · refine absurd hfile (not_reachesFile (r := .directory ["d"] none windingSources) ?_ (by simp))
      rw [hresolve "me" (by simp), show 21 + (19 - rounds) = 1 + (20 + (19 - rounds)) by omega]
      exact (resolveFrom_rounds 1 _ []).trans (resolveFrom_here _)

/-- Behind a root of the directory `a.h` is found exactly if its path leads to the file. -/
theorem found_winding_iff {root : String} (wf : winding.WellFormed)
    (hshort : Path.isTooLong root = false)
    (hr : winding.resolve root = .ok (.directory ["d"] none windingSources)) :
    ["a.h"] ∈ (discover winding root [".h"]).files.map (Path.below root) ↔
      ∃ id, winding.resolve (Path.join root "a.h") = .ok (.file id) := by
  have hlink : winding.entry? ["d"] "a.h" = some (.leaf (.link "lap/lap/b.h")) := rfl
  rw [mem_map_below_iff wf hr]
  constructor
  · rintro ⟨dirs, name, hnames, -, hat, -⟩
    obtain ⟨rfl, hlast⟩ := List.append_inj' (hnames.symm.trans (List.nil_append _).symm) rfl
    cases hlast
    rcases hat with ⟨id, hentry⟩ | ⟨target, -, hfile⟩
    · rw [List.append_nil, hlink] at hentry
      cases hentry
    · exact hfile
  · intro hfile
    refine ⟨[], "a.h", rfl, fun front hfront => ?_, Or.inr ⟨_, hlink, hfile⟩, by decide⟩
    rw [List.prefix_nil.mp hfront]
    exact ⟨hshort, windingSources, rfl⟩

end FileSystem

open FileSystem

/-- In the example the roots `d` and `d/me/` give the same names, `a.h` among them. -/
theorem sample_same_names : winding.WellFormed ∧
    winding.resolve "d/me/" = .ok (.directory ["d"] none windingSources) ∧
    winding.WithinLimits (windingSources.steps "d" none) ∧
    winding.WithinLimits (windingSources.steps "d/me/" none) ∧
    ["a.h"] ∈ (discover winding "d" [".h"]).files.map (Path.below "d") ∧
    (discover winding "d" [".h"]).files.map (Path.below "d") =
      (discover winding "d/me/" [".h"]).files.map (Path.below "d/me/") := by
  have wf : winding.WellFormed := by decide
  have hshort : Path.isTooLong "d" = false := by decide
  have hr : winding.resolve "d/me/" = .ok (.directory ["d"] none windingSources) := by
    rw [resolve_winding _ ["me", ""] (by decide)]
    exact resolveFrom_rounds 1 39 [""]
  have hlimits : winding.WithinLimits (windingSources.steps "d" none) :=
    withinLimits_winding (Nat.zero_le 19) hshort (by decide)
  have hlimits' : winding.WithinLimits (windingSources.steps "d/me/" none) :=
    withinLimits_winding (show 1 ≤ 19 by decide) (by decide) (by decide +kernel)
  have hpath : Path.join "d" "a.h" = "d/a.h" := by decide
  refine ⟨wf, hr, hlimits, hlimits', ?_, ?_⟩
  · rw [found_winding_iff wf hshort resolve_d, hpath]
    exact ⟨0, resolve_file⟩
  · exact (files_keep_spelling wf "d" [".h"]).2 "d/me/" _ _ _ _ _ resolve_d hr
      (isWalk_steps wf resolve_d) (isWalk_steps wf hr) hlimits hlimits'

/-- The limit on the length of paths is not enough: a root that leads through thirty links leaves
too few for a link that needs twenty-one, and its file is not found. -/
theorem names_differ_beyond_links : ¬ ∀ (fs : FileSystem) (root other : String)
    (suffixes place : List String) (fault : Option Errno) (inside : Listing)
    (steps others : List Step), fs.WellFormed →
    fs.resolve root = .ok (.directory place fault inside) →
    fs.resolve other = .ok (.directory place fault inside) →
    fs.IsWalk root place steps → fs.IsWalk other place others →
    (∀ p name kind, .entry p name kind ∈ steps → Path.isTooLong p = false) →
    (∀ p name kind, .entry p name kind ∈ others → Path.isTooLong p = false) →
    (discover fs root suffixes).files.map (Path.below root) =
      (discover fs other suffixes).files.map (Path.below other) := by
  intro h
  have wf : winding.WellFormed := by decide
  have hshort : Path.isTooLong "d" = false := by decide
  have hshort' : Path.isTooLong "d/lap/lap/lap" = false := by decide
  have hsame := h winding "d/lap/lap/lap" "d" [".h"] ["d"] none windingSources _ _ wf resolve_laps
    resolve_d (isWalk_steps wf resolve_laps) (isWalk_steps wf resolve_d)
    (fun _ _ _ => short_winding hshort' (by decide))
    (fun _ _ _ => short_winding hshort (by decide))
  have hpath : Path.join "d" "a.h" = "d/a.h" := by decide
  have hpath' : Path.join "d/lap/lap/lap" "a.h" = "d/lap/lap/lap/a.h" := by decide
  have hfound : ["a.h"] ∈ (discover winding "d" [".h"]).files.map (Path.below "d") := by
    rw [found_winding_iff wf hshort resolve_d, hpath]
    exact ⟨0, resolve_file⟩
  rw [← hsame, found_winding_iff wf hshort' resolve_laps, hpath', resolve_lost] at hfound
  obtain ⟨id, hfile⟩ := hfound
  cases hfile

end TidyTree
