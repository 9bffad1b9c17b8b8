/-
TidyTree.Proofs.Walk.Order — in which order a walk takes its steps.

`pairwise_key_steps`: the steps of a walk come in the lexicographic order
of the names that lead to them.  Inside one block all chains of names
begin with the name of the entry, and the entry itself has the shortest;
between two blocks the first name decides.  So sorting each directory
by name is enough to sort the whole walk, and the order of path texts,
in which `a-b` stands before `a/b`, never matters.
-/
import Mathlib.Data.String.Basic
import TidyTree.Proofs.Walk.Steps

namespace TidyTree

/-! ## 1. Sorted blocks -/

theorem nameOrder_trans {α : Type} (a b c : String × α) (hab : nameOrder a b = true)
    (hbc : nameOrder b c = true) : nameOrder a c = true := by
  simp only [nameOrder, decide_eq_true_eq] at *
  exact le_trans hab hbc

theorem nameOrder_total {α : Type} (a b : String × α) :
    (nameOrder a b || nameOrder b a) = true := by
  simp only [nameOrder, Bool.or_eq_true, decide_eq_true_eq]
  exact le_total a.1 b.1

theorem pairwise_mergeSort_nameOrder {α : Type} (entries : List (String × α)) :
    (entries.mergeSort nameOrder).Pairwise fun a b => a.1 ≤ b.1 := by
  have h : (entries.mergeSort nameOrder).Pairwise fun a b => nameOrder a b = true :=
    List.pairwise_mergeSort nameOrder_trans nameOrder_total entries
  simpa [nameOrder] using h

/-- Entries with names of their own are sorted strictly. -/
theorem pairwise_mergeSort_nameOrder_lt {α : Type} {entries : List (String × α)}
    (distinct : (entries.map (·.1)).Nodup) :
    (entries.mergeSort nameOrder).Pairwise fun a b => a.1 < b.1 := by
  have hnodup : ((entries.mergeSort nameOrder).map (·.1)).Nodup :=
    ((List.mergeSort_perm entries nameOrder).map (·.1)).nodup_iff.mpr distinct
  have hne := List.pairwise_map.mp hnodup
  exact ((pairwise_mergeSort_nameOrder entries).and hne).imp fun ⟨hle, hne⟩ =>
    lt_of_le_of_ne hle hne

/-- What holds inside the blocks and from each block to those with greater names holds of the
sorted blocks one after the other. -/
theorem pairwise_inNameOrder {R : Step → Step → Prop} {blocks : List (String × List Step)}
    (distinct : (blocks.map (·.1)).Nodup) (within : ∀ b ∈ blocks, b.2.Pairwise R)
    (across : ∀ b ∈ blocks, ∀ c ∈ blocks, b.1 < c.1 → ∀ s ∈ b.2, ∀ t ∈ c.2, R s t) :
    (inNameOrder blocks).Pairwise R := by
  rw [inNameOrder, List.pairwise_flatMap]
  refine ⟨fun b hb => within b (List.mem_mergeSort.mp hb), ?_⟩
  refine (pairwise_mergeSort_nameOrder_lt distinct).imp_of_mem fun {b c} hb hc hlt => ?_
  exact across b (List.mem_mergeSort.mp hb) c (List.mem_mergeSort.mp hc) hlt

/-- The order in which the blocks come before they are sorted does not matter. -/
theorem inNameOrder_eq_of_perm {blocks others : List (String × List Step)}
    (distinct : (blocks.map (·.1)).Nodup) (h : blocks.Perm others) :
    inNameOrder blocks = inNameOrder others := by
  have hsorted : blocks.mergeSort nameOrder = others.mergeSort nameOrder := by
    have hperm : (blocks.mergeSort nameOrder).Perm (others.mergeSort nameOrder) :=
      (List.mergeSort_perm blocks nameOrder).trans
        (h.trans (List.mergeSort_perm others nameOrder).symm)
    have hothers := (h.map (·.1)).nodup_iff.mp distinct
    exact hperm.eq_of_pairwise (fun b c _ _ hbc hcb => absurd hcb (lt_asymm hbc))
      (pairwise_mergeSort_nameOrder_lt distinct) (pairwise_mergeSort_nameOrder_lt hothers)
  rw [inNameOrder, hsorted, inNameOrder]

/-! ## 2. Steps in the order of their names -/

/-- Of two entries the first has the smaller chain of names below `root`. -/
def Step.Precedes (root : String) : Step → Step → Prop
  | .entry p _ _, .entry q _ _ => Path.below root p < Path.below root q
  | _, _ => True

/-- What decides on the place of a step: the chain of names below `root` that leads to it.  A fault
stands where the first entry of its directory would, under the empty name that no entry has. -/
def Step.key (root : String) : Step → List String
  | .entry p _ _ => Path.below root p
  | .fault p _ => Path.below root p ++ [""]

namespace Listing

theorem below_join {path name : String} (hname : Path.IsName name) {names : List String}
    (hnames : ∀ n ∈ names, Path.IsName n) :
    Path.below path (Path.extend (Path.join path name) names) = name :: names := by
  rw [← Path.extend_cons]
  apply Path.below_extend
  intro n hn
  rcases List.mem_cons.mp hn with rfl | hn
  · exact hname
  · exact hnames n hn

/-- Below a directory the name of the directory is the first one on the way. -/
theorem key_of_mem_inside {l inside : Listing} (h : l.WellFormed) {path name : String}
    {fault : Option Errno} (hf : l.find? name = some (.dir fault inside)) {s : Step}
    (hs : s ∈ inside.steps (Path.join path name) fault) :
    s.key path = name :: s.key (Path.join path name) ∧ s.key (Path.join path name) ≠ [] := by
  have hname := h.isName_of_find? hf
  cases s with
  | entry p n kind =>
    obtain ⟨names, hne, hnames, rfl⟩ := exists_names_of_mem_steps (h.inside hf) hs
    rw [Step.key, Step.key, below_join hname hnames, Path.below_extend hnames]
    exact ⟨rfl, hne⟩
  | fault p e =>
    obtain ⟨names, hnames, rfl⟩ := exists_names_of_fault (h.inside hf) hs
    rw [Step.key, Step.key, below_join hname hnames, Path.below_extend hnames]
    exact ⟨rfl, by simp⟩

theorem key_entry {path name : String} (hname : Path.IsName name) (kind : EntryKind) :
    (Step.entry (Path.join path name) name kind).key path = [name] := by
  have h : Path.below path (Path.extend (Path.join path name) []) = [name] :=
    below_join hname (by simp)
  rwa [Path.extend_nil] at h

/-- All steps in the block of a name are reached by that name first. -/
theorem key_of_mem_block {l : Listing} (h : l.WellFormed) {path name : String} {node : Node}
    (hf : l.find? name = some node) {s : Step} (hs : s ∈ node.steps path name) :
    ∃ names, s.key path = name :: names := by
  rcases Node.mem_steps.mp hs with rfl | ⟨fault, inside, rfl, hbelow⟩
  · exact ⟨[], key_entry (h.isName_of_find? hf) node.kind⟩
  · exact ⟨_, (key_of_mem_inside h hf hbelow).1⟩

/-- The steps in the block of an entry are in order if those inside the entry are. -/
theorem pairwise_block {l : Listing} (h : l.WellFormed) {path name : String} {node : Node}
    (hf : l.find? name = some node)
    (hinside : ∀ fault inside, node = .dir fault inside →
      (inside.steps (Path.join path name) fault).Pairwise fun s t =>
        s.key (Path.join path name) < t.key (Path.join path name)) :
    (node.steps path name).Pairwise fun s t => s.key path < t.key path := by
  cases node with
  | leaf lf => exact List.pairwise_singleton _ _
  | dir fault inside =>
    refine List.pairwise_cons.mpr ⟨fun s hs => ?_, ?_⟩
    · obtain ⟨hkey, hne⟩ := key_of_mem_inside h hf hs
      obtain ⟨first, rest, e⟩ := List.exists_cons_of_ne_nil hne
      rw [key_entry (h.isName_of_find? hf), hkey, e]
      exact List.cons_lt_cons_iff.mpr (Or.inr ⟨rfl, List.nil_lt_cons first rest⟩)
    · refine (hinside fault inside rfl).imp_of_mem fun hs ht hst => ?_
      rw [(key_of_mem_inside h hf hs).1, (key_of_mem_inside h hf ht).1]
      exact List.cons_lt_cons_iff.mpr (Or.inr ⟨rfl, hst⟩)

/-- The steps of a walk come in strictly increasing order of their keys. -/
theorem pairwise_key_steps {l : Listing} (h : l.WellFormed) (path : String)
    (fault : Option Errno) :
    (l.steps path fault).Pairwise fun s t => s.key path < t.key path := by
  induction l using inside_induction generalizing path fault with
  | step l ih =>
    cases ho : openFault path fault with
    | some e =>
      rw [steps_of_fault ho]
      exact List.pairwise_singleton _ _
    | none =>
      rw [steps_of_open ho]
      refine pairwise_inNameOrder (by rw [map_fst_blocks]; exact h.nodup) ?_ ?_
      · intro b hb
        obtain ⟨node, hf, e⟩ := (mem_blocks h).mp hb
        rw [e]
        refine pairwise_block h hf fun f inside hnode => ?_
        subst hnode
        exact ih b.1 f inside hf (h.inside hf) _ _
      · intro b hb c hc hlt s hs t ht
        obtain ⟨node, hf, e⟩ := (mem_blocks h).mp hb
        obtain ⟨node', hf', e'⟩ := (mem_blocks h).mp hc
        obtain ⟨names, hkey⟩ := key_of_mem_block h hf (e ▸ hs)
        obtain ⟨names', hkey'⟩ := key_of_mem_block h hf' (e' ▸ ht)
        rw [hkey, hkey']
        exact List.cons_lt_cons_iff.mpr (Or.inl hlt)

/-- The entries of a walk come in the order of the names that lead to them. -/
theorem pairwise_steps {l : Listing} (h : l.WellFormed) (path : String) (fault : Option Errno) :
    (l.steps path fault).Pairwise (Step.Precedes path) := by
  refine (pairwise_key_steps h path fault).imp fun {s t} hlt => ?_
  cases s with
  | fault => trivial
  | entry p n k =>
    cases t with
    | fault => trivial
    | entry q m j => exact hlt

end Listing

/-! ## 3. Chains of names -/

theorem empty_lt {name : String} (h : name ≠ "") : "" < name := by
  rw [String.lt_iff_toList_lt]
  obtain ⟨c, cs, e⟩ :=
    List.exists_cons_of_ne_nil fun e => h (String.toList_eq_nil_iff.mp e)
  rw [e]
  exact List.nil_lt_cons c cs

theorem lt_snoc (names : List String) (name : String) : names < names ++ [name] := by
  induction names with
  | nil => exact List.nil_lt_cons name []
  | cons first names ih => exact List.cons_lt_cons_iff.mpr (Or.inr ⟨rfl, ih⟩)

/-- Nothing stands between a chain of names and the chain that goes on with the empty name. -/
theorem snoc_empty_lt {names others : List String} (h : names < others)
    (hne : others ≠ names ++ [""]) : names ++ [""] < others := by
  induction names generalizing others with
  | nil =>
    cases others with
    | nil => exact absurd h (lt_irrefl _)
    | cons first others =>
      by_cases hfirst : first = ""
      · subst hfirst
        cases others with
        | nil => exact absurd rfl hne
        | cons next others => exact List.cons_lt_cons_iff.mpr (Or.inr ⟨rfl, List.nil_lt_cons _ _⟩)
      · exact List.cons_lt_cons_iff.mpr (Or.inl (empty_lt hfirst))
  | cons first names ih =>
    cases others with
    | nil => exact absurd h (List.not_lt_nil _)
    | cons other others =>
      rcases List.cons_lt_cons_iff.mp h with hlt | ⟨rfl, hlt⟩
      · exact List.cons_lt_cons_iff.mpr (Or.inl hlt)
      · exact List.cons_lt_cons_iff.mpr (Or.inr ⟨rfl, ih hlt fun e => hne (by rw [e]; rfl)⟩)

end TidyTree
