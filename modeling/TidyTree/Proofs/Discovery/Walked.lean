/-
TidyTree.Proofs.Discovery.Walked — the walk below a root, said of the
file system.

`IsWalk` says which steps the walk below a root takes and in which
order, in terms of places, what stands there and what can be opened;
it does not know how the walk is done.  Because the order is strict, it
leaves nothing open: there is one such list (`IsWalk.unique`), and it is
the one that a discovery reads (`isWalk_steps`).
-/
import TidyTree.Proofs.Discovery.Exactness

namespace TidyTree

/-- The chains of names that end before a last name are those before it. -/
theorem forall_prefix_snoc {P : List String → Prop} {dirs : List String} {name : String} :
    (∀ front, front <+: dirs ++ [name] → front ≠ dirs ++ [name] → P front) ↔
      ∀ front, front <+: dirs → P front := by
  constructor
  · intro h front hfront
    refine h front (hfront.trans (List.prefix_append dirs [name])) fun e => ?_
    have hlength := hfront.length_le
    rw [e] at hlength
    simp at hlength
  · intro h front hfront hne
    exact h front ((List.prefix_concat_iff.mp hfront).resolve_left hne)

namespace FileSystem

/-! ## 1. What a walk is -/

/-- The directory at `place` cannot be opened by the path `path`, for the reason `e`. -/
def Refuses (fs : FileSystem) (place : List String) (path : String) (e : Errno) : Prop :=
  ∃ fault inside, fs.directory? place = some (fault, inside) ∧ openFault path fault = some e

/-- The steps of the walk below `root`, which leads to the directory at `place`.  A walk comes to
an entry if all directories on the way can be opened, and has a fault at a directory that it comes
to and cannot open; the root itself is no entry.  The steps come depth first, the entries of a
directory in the order of their names, and a fault in the place of what the directory holds. -/
structure IsWalk (fs : FileSystem) (root : String) (place : List String) (steps : List Step) :
    Prop where
  entries : ∀ p name kind, .entry p name kind ∈ steps ↔
    ∃ dirs node, p = Path.extend root (dirs ++ [name]) ∧
      (∀ front, front <+: dirs → fs.CanOpen (place ++ front) (Path.extend root front)) ∧
      fs.entry? (place ++ dirs) name = some node ∧ node.kind = kind
  faults : ∀ p e, .fault p e ∈ steps ↔
    ∃ dirs, p = Path.extend root dirs ∧
      (∀ front, front <+: dirs → front ≠ dirs →
        fs.CanOpen (place ++ front) (Path.extend root front)) ∧
      fs.Refuses (place ++ dirs) p e
  ordered : steps.Pairwise fun s t => s.key root < t.key root

variable {fs : FileSystem} {root : String} {place : List String} {steps others : List Step}

theorem IsWalk.nodup (h : fs.IsWalk root place steps) : steps.Nodup := by
  refine h.ordered.imp fun {s t} hlt e => ?_
  rw [e] at hlt
  exact lt_irrefl _ hlt

/-- There is only one walk below a root. -/
theorem IsWalk.unique (h : fs.IsWalk root place steps) (h' : fs.IsWalk root place others) :
    others = steps := by
  have hmem : ∀ s, s ∈ others ↔ s ∈ steps := by
    intro s
    cases s with
    | entry p name kind => rw [h.entries, h'.entries]
    | fault p e => rw [h.faults, h'.faults]
  have hperm : others.Perm steps := (List.perm_ext_iff_of_nodup h'.nodup h.nodup).mpr hmem
  exact hperm.eq_of_pairwise (fun s t _ _ hst hts => absurd hts (lt_asymm hst)) h'.ordered h.ordered

/-! ## 2. Places below a root -/

theorem isName_of_entry (wf : fs.WellFormed) {fault : Option Errno} {inside : Listing}
    (hd : fs.directory? place = some (fault, inside)) {dirs : List String} {name : String}
    {node : Node} (h : fs.entry? (place ++ dirs) name = some node) :
    ∀ n ∈ dirs ++ [name], Path.IsName n := by
  obtain ⟨f, l, hl, hn⟩ := (entry?_append_eq_some_iff hd).mp h
  exact (wf.inside hd).isName_of_chain hl hn

theorem isName_of_refuses (wf : fs.WellFormed) {fault : Option Errno} {inside : Listing}
    (hd : fs.directory? place = some (fault, inside)) {dirs : List String} {path : String}
    {e : Errno} (h : fs.Refuses (place ++ dirs) path e) : ∀ n ∈ dirs, Path.IsName n := by
  obtain ⟨f, l, hl, -⟩ := h
  rw [directory?_append hd] at hl
  exact (wf.inside hd).isName_of_descend hl

/-! ## 3. The walk that a discovery reads -/

theorem refuses_iff {fault : Option Errno} {inside : Listing}
    (h : fs.directory? place = some (fault, inside)) {path : String} {e : Errno} :
    fs.Refuses place path e ↔ openFault path fault = some e := by
  simp [Refuses, h]

theorem refuses_snoc_iff {name path : String} {e : Errno} :
    fs.Refuses (place ++ [name]) path e ↔
      ∃ f l, fs.entry? place name = some (.dir f l) ∧ openFault path f = some e := by
  simp only [Refuses, directory?_snoc_iff]

/-- The walk through the directory that a root leads to is the walk below the root. -/
theorem isWalk_steps (wf : fs.WellFormed) {fault : Option Errno} {inside : Listing}
    (h : fs.resolve root = .ok (.directory place fault inside)) :
    fs.IsWalk root place (inside.steps root fault) := by
  have hd := directory?_of_resolve h
  have hinside := wf.inside hd
  refine ⟨fun p name kind => ?_, fun p e => ?_, Listing.pairwise_key_steps hinside root fault⟩
  · rw [Listing.entry_mem_steps hinside]
    simp only [opens_iff_canOpen hd]
    constructor
    · rintro ⟨dirs, f, l, node, hopen, hl, hn, hk, rfl⟩
      exact ⟨dirs, node, rfl, hopen, (entry?_append_eq_some_iff hd).mpr ⟨f, l, hl, hn⟩, hk⟩
    · rintro ⟨dirs, node, rfl, hopen, hentry, hk⟩
      obtain ⟨f, l, hl, hn⟩ := (entry?_append_eq_some_iff hd).mp hentry
      exact ⟨dirs, f, l, node, hopen, hl, hn, hk, rfl⟩
  · rw [Listing.fault_mem_steps hinside]
    simp only [opens_iff_canOpen hd]
    constructor
    · rintro (⟨he, rfl⟩ | ⟨dirs, f, l, name, g, i, hopen, hl, hn, he, rfl⟩)
      · refine ⟨[], rfl, fun front hfront hne => absurd (List.prefix_nil.mp hfront) hne, ?_⟩
        rwa [List.append_nil, refuses_iff hd]
      · refine ⟨dirs ++ [name], rfl, forall_prefix_snoc.mpr hopen, ?_⟩
        rw [← List.append_assoc, refuses_snoc_iff]
        exact ⟨g, i, (entry?_append_eq_some_iff hd).mpr ⟨f, l, hl, hn⟩, he⟩
    · rintro ⟨dirs, rfl, hopen, hrefuse⟩
      rcases List.eq_nil_or_concat dirs with rfl | ⟨front, name, rfl⟩
      · rw [List.append_nil, refuses_iff hd] at hrefuse
        exact Or.inl ⟨hrefuse, rfl⟩
      · rw [List.concat_eq_append] at *
        rw [← List.append_assoc, refuses_snoc_iff] at hrefuse
        obtain ⟨g, i, hentry, he⟩ := hrefuse
        obtain ⟨f, l, hl, hn⟩ := (entry?_append_eq_some_iff hd).mp hentry
        exact Or.inr ⟨front, f, l, name, g, i, forall_prefix_snoc.mp hopen, hl, hn, he, rfl⟩

end FileSystem

end TidyTree
