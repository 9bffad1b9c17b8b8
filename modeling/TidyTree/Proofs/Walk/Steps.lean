/-
TidyTree.Proofs.Walk.Steps — which steps a walk takes.

A walk is built from one block per entry, and the blocks are sorted by
name.  Sorting changes nothing about which steps there are, so a step
belongs to a walk exactly if it belongs to the block of some entry
(`mem_steps`).  `mem_steps_iff` follows this down the tree: a walk
comes to an entry exactly if all directories on the way can be opened,
and has a fault exactly if an entry it comes to, or its top, is a
directory that cannot.
-/
import TidyTree.Proofs.FileSystem.WellFormed
import TidyTree.Walk

namespace TidyTree

/-! ## 1. Blocks -/

/-- The kind of what stands under a name. -/
def Node.kind : Node → EntryKind
  | .leaf l => l.kind
  | .dir _ _ => .directory

/-- The steps of a walk that belong to one entry of the directory at `path`. -/
def Node.steps (path name : String) : Node → List Step
  | .leaf l => [.entry (Path.join path name) name l.kind]
  | .dir fault inside =>
    .entry (Path.join path name) name .directory :: inside.steps (Path.join path name) fault

theorem Node.mem_steps {path name : String} {node : Node} {s : Step} :
    s ∈ node.steps path name ↔
      s = .entry (Path.join path name) name node.kind ∨
        ∃ fault inside, node = .dir fault inside ∧
          s ∈ inside.steps (Path.join path name) fault := by
  cases node with
  | leaf l => simp [steps, kind]
  | dir fault inside => simp [steps, kind]

/-- What a walk does about one entry by itself: it comes to it, and if it is a directory that cannot
be opened there is a fault. -/
def Node.Yields (p name : String) (node : Node) (s : Step) : Prop :=
  s = .entry p name node.kind ∨
    ∃ fault inside e, node = .dir fault inside ∧ openFault p fault = some e ∧ s = .fault p e

theorem mem_inNameOrder {blocks : List (String × List Step)} {s : Step} :
    s ∈ inNameOrder blocks ↔ ∃ b ∈ blocks, s ∈ b.2 := by
  simp only [inNameOrder, List.mem_flatMap, List.mem_mergeSort]

namespace Listing

theorem blocks_cons (path name : String) (node : Node) (rest : Listing) :
    (cons name node rest).blocks path = (name, node.steps path name) :: rest.blocks path := by
  cases node <;> rfl

/-- There is one block per entry. -/
theorem map_fst_blocks (path : String) (l : Listing) : (l.blocks path).map (·.1) = l.names := by
  induction l using cons_induction with
  | nil => rfl
  | cons n node rest ih => rw [blocks_cons, List.map_cons, ih, names_cons]

/-- The block of a name holds the steps of what is found under the name. -/
theorem mem_blocks {l : Listing} (h : l.WellFormed) {path : String} {b : String × List Step} :
    b ∈ l.blocks path ↔ ∃ node, l.find? b.1 = some node ∧ b.2 = node.steps path b.1 := by
  induction l using cons_induction with
  | nil => simp [blocks, find?]
  | cons n first rest ih =>
    obtain ⟨-, hfresh, -, hrest⟩ := wellFormed_cons.mp h
    rw [blocks_cons, List.mem_cons, ih hrest, find?_cons]
    by_cases e : n = b.1
    · have hnone : ∀ node, rest.find? b.1 ≠ some node := fun node hf => ne_of_find? hfresh hf e
      subst e
      simp [hnone, Prod.ext_iff]
    · have hne : b ≠ (n, first.steps path n) := fun hb => e (by rw [hb])
      simp [e, hne]

/-! ## 2. One directory -/

theorem steps_of_fault {path : String} {fault : Option Errno} {e : Errno}
    (h : openFault path fault = some e) (l : Listing) : l.steps path fault = [.fault path e] := by
  simp only [steps, throughDirectory, h]

theorem steps_of_open {path : String} {fault : Option Errno} (h : openFault path fault = none)
    (l : Listing) : l.steps path fault = inNameOrder (l.blocks path) := by
  simp only [steps, throughDirectory, h]

/-- A walk through a directory that can be opened takes the steps of its entries. -/
theorem mem_steps {l : Listing} (h : l.WellFormed) {path : String} {fault : Option Errno}
    (ho : openFault path fault = none) {s : Step} :
    s ∈ l.steps path fault ↔ ∃ name node, l.find? name = some node ∧ s ∈ node.steps path name := by
  rw [steps_of_open ho, mem_inNameOrder]
  constructor
  · rintro ⟨⟨name, block⟩, hb, hs⟩
    obtain ⟨node, hf, e⟩ := (mem_blocks h).mp hb
    exact ⟨name, node, hf, e ▸ hs⟩
  · rintro ⟨name, node, hf, hs⟩
    exact ⟨(name, node.steps path name), (mem_blocks h).mpr ⟨node, hf, rfl⟩, hs⟩

/-! ## 3. The way to an entry -/

/-- The directory at `path` and those along a chain of names below it can be opened. -/
def Opens (path : String) (fault : Option Errno) (l : Listing) (dirs : List String) : Prop :=
  ∀ front, front <+: dirs →
    ∃ f inside, l.descend fault front = some (f, inside) ∧
      openFault (Path.extend path front) f = none

theorem opens_nil {path : String} {fault : Option Errno} {l : Listing} :
    l.Opens path fault [] ↔ openFault path fault = none := by
  constructor
  · intro h
    obtain ⟨f, inside, hd, ho⟩ := h [] List.nil_prefix
    rw [descend_nil] at hd
    cases hd
    exact ho
  · intro h front hfront
    rw [List.prefix_nil.mp hfront]
    exact ⟨fault, l, descend_nil fault l, h⟩

theorem opens_cons {path name : String} {fault : Option Errno} {l : Listing}
    {dirs : List String} :
    l.Opens path fault (name :: dirs) ↔ openFault path fault = none ∧
      ∃ f inside, l.find? name = some (.dir f inside) ∧
        inside.Opens (Path.join path name) f dirs := by
  constructor
  · intro h
    have hhere : openFault path fault = none :=
      opens_nil.mp fun front hfront => h front (hfront.trans List.nil_prefix)
    obtain ⟨f, inside, hd, -⟩ := h [name] (by simp)
    rw [descend_cons] at hd
    split at hd
    · next f' inside' hf =>
      refine ⟨hhere, f', inside', hf, fun front hfront => ?_⟩
      obtain ⟨g, i, hd', ho⟩ := h (name :: front) (List.cons_prefix_cons.mpr ⟨rfl, hfront⟩)
      rw [descend_cons, hf] at hd'
      exact ⟨g, i, hd', ho⟩
    · cases hd
  · rintro ⟨hhere, f, inside, hf, h⟩ front hfront
    rcases List.prefix_cons_iff.mp hfront with rfl | ⟨rest, rfl, hrest⟩
    · exact ⟨fault, l, descend_nil fault l, hhere⟩
    · obtain ⟨g, i, hd, ho⟩ := h rest hrest
      exact ⟨g, i, by rw [descend_cons, hf]; exact hd, ho⟩

theorem Opens.here {path : String} {fault : Option Errno} {l : Listing} {dirs : List String}
    (h : l.Opens path fault dirs) : openFault path fault = none :=
  opens_nil.mp fun front hfront => h front (hfront.trans List.nil_prefix)

/-- A walk takes the steps of the entries of all directories that it can open on the way from the
top, and if the top cannot be opened this is its only step. -/
theorem mem_steps_iff {l : Listing} (h : l.WellFormed) {path : String} {fault : Option Errno}
    {s : Step} :
    s ∈ l.steps path fault ↔ (∃ e, openFault path fault = some e ∧ s = .fault path e) ∨
      ∃ dirs f inside name node, l.Opens path fault dirs ∧
        l.descend fault dirs = some (f, inside) ∧ inside.find? name = some node ∧
        node.Yields (Path.extend path (dirs ++ [name])) name s := by
  induction l using inside_induction generalizing path fault with
  | step l ih =>
    cases ho : openFault path fault with
    | some e =>
      rw [steps_of_fault ho, List.mem_singleton]
      constructor
      · intro hs
        exact Or.inl ⟨e, rfl, hs⟩
      · rintro (⟨e', he, hs⟩ | ⟨dirs, f, inside, name, node, hopen, -⟩)
        · cases he
          exact hs
        · rw [hopen.here] at ho
          cases ho
    | none =>
      rw [mem_steps h ho]
      constructor
      · rintro ⟨first, node, hf, hs⟩
        have hhere : node.Yields (Path.join path first) first s →
            ∃ dirs f inside name node, l.Opens path fault dirs ∧
              l.descend fault dirs = some (f, inside) ∧ inside.find? name = some node ∧
              node.Yields (Path.extend path (dirs ++ [name])) name s := fun hy =>
          ⟨[], fault, l, first, node, opens_nil.mpr ho, descend_nil fault l, hf, hy⟩
        rcases Node.mem_steps.mp hs with e | ⟨f, inside, rfl, hbelow⟩
        · exact Or.inr (hhere (Or.inl e))
        · rcases (ih first f inside hf (h.inside hf)).mp hbelow with
            ⟨e, he, hs⟩ | ⟨dirs, g, i, name, node, hopen, hd, hn, hy⟩
          · exact Or.inr (hhere (Or.inr ⟨f, inside, e, rfl, he, hs⟩))
          · exact Or.inr ⟨first :: dirs, g, i, name, node,
              opens_cons.mpr ⟨ho, f, inside, hf, hopen⟩,
              by rw [descend_cons, hf]; exact hd, hn, hy⟩
      · rintro (⟨e, he, -⟩ | ⟨dirs, f, inside, name, node, hopen, hd, hn, hy⟩)
        · cases he
        · cases dirs with
          | nil =>
            rw [descend_nil] at hd
            cases hd
            refine ⟨name, node, hn, Node.mem_steps.mpr ?_⟩
            rcases hy with hs | ⟨f, inside, e, rfl, he, hs⟩
            · exact Or.inl hs
            · exact Or.inr ⟨f, inside, rfl,
                (ih name f inside hn (h.inside hn)).mpr (Or.inl ⟨e, he, hs⟩)⟩
          | cons first dirs =>
            obtain ⟨-, g, i, hf, hopen⟩ := opens_cons.mp hopen
            rw [descend_cons, hf] at hd
            refine ⟨first, .dir g i, hf, Node.mem_steps.mpr (Or.inr ⟨g, i, rfl, ?_⟩)⟩
            exact (ih first g i hf (h.inside hf)).mpr
              (Or.inr ⟨dirs, f, inside, name, node, hopen, hd, hn, hy⟩)

/-- A walk comes to the entries of all directories that it can open on the way from the top. -/
theorem entry_mem_steps {l : Listing} (h : l.WellFormed) {path : String} {fault : Option Errno}
    {p name : String} {kind : EntryKind} :
    Step.entry p name kind ∈ l.steps path fault ↔
      ∃ dirs f inside node, l.Opens path fault dirs ∧ l.descend fault dirs = some (f, inside) ∧
        inside.find? name = some node ∧ node.kind = kind ∧
        p = Path.extend path (dirs ++ [name]) := by
  rw [mem_steps_iff h]
  constructor
  · rintro (⟨e, -, hs⟩ | ⟨dirs, f, inside, n, node, hopen, hd, hn, hs | ⟨g, i, e, -, -, hs⟩⟩)
    · cases hs
    · cases hs
      exact ⟨dirs, f, inside, node, hopen, hd, hn, rfl, rfl⟩
    · cases hs
  · rintro ⟨dirs, f, inside, node, hopen, hd, hn, rfl, rfl⟩
    exact Or.inr ⟨dirs, f, inside, name, node, hopen, hd, hn, Or.inl rfl⟩

/-- The faults of a walk are the directories it comes to but cannot open, the top among them. -/
theorem fault_mem_steps {l : Listing} (h : l.WellFormed) {path : String} {fault : Option Errno}
    {p : String} {e : Errno} :
    Step.fault p e ∈ l.steps path fault ↔ (openFault path fault = some e ∧ p = path) ∨
      ∃ dirs f inside name g i, l.Opens path fault dirs ∧
        l.descend fault dirs = some (f, inside) ∧ inside.find? name = some (.dir g i) ∧
        openFault p g = some e ∧ p = Path.extend path (dirs ++ [name]) := by
  rw [mem_steps_iff h]
  constructor
  · rintro (⟨e', he, hs⟩ | ⟨dirs, f, inside, n, node, hopen, hd, hn, hs | ⟨g, i, e', rfl, he, hs⟩⟩)
    · cases hs
      exact Or.inl ⟨he, rfl⟩
    · cases hs
    · cases hs
      exact Or.inr ⟨dirs, f, inside, n, g, i, hopen, hd, hn, he, rfl⟩
  · rintro (⟨he, rfl⟩ | ⟨dirs, f, inside, n, g, i, hopen, hd, hn, he, rfl⟩)
    · exact Or.inl ⟨e, he, rfl⟩
    · exact Or.inr ⟨dirs, f, inside, n, .dir g i, hopen, hd, hn, Or.inr ⟨g, i, e, rfl, he, rfl⟩⟩

/-- The names on the way to an entry are names. -/
theorem WellFormed.isName_of_descend {l inside : Listing} (h : l.WellFormed)
    {dirs : List String} {fault f : Option Errno}
    (hd : l.descend fault dirs = some (f, inside)) : ∀ name ∈ dirs, Path.IsName name := by
  induction dirs generalizing l fault with
  | nil => simp
  | cons name dirs ih =>
    rw [descend_cons] at hd
    split at hd
    · next f' inside' hf =>
      intro n hn
      rcases List.mem_cons.mp hn with rfl | hn
      · exact h.isName_of_find? hf
      · exact ih (h.inside hf) hd n hn
    · cases hd

/-- The names on the way to an entry and its own name are names. -/
theorem WellFormed.isName_of_chain {l inside : Listing} (h : l.WellFormed)
    {dirs : List String} {fault f : Option Errno} {name : String} {node : Node}
    (hd : l.descend fault dirs = some (f, inside)) (hn : inside.find? name = some node) :
    ∀ n ∈ dirs ++ [name], Path.IsName n := by
  intro n hmem
  rcases List.mem_append.mp hmem with hmem | hmem
  · exact h.isName_of_descend hd n hmem
  · rw [List.mem_singleton.mp hmem]
    exact (h.descend hd).isName_of_find? hn

/-- The path of an entry is the path of the walk extended by names. -/
theorem exists_names_of_mem_steps {l : Listing} (h : l.WellFormed) {path : String}
    {fault : Option Errno} {p name : String} {kind : EntryKind}
    (hs : Step.entry p name kind ∈ l.steps path fault) :
    ∃ names, names ≠ [] ∧ (∀ n ∈ names, Path.IsName n) ∧ p = Path.extend path names := by
  obtain ⟨dirs, f, inside, node, -, hd, hn, -, rfl⟩ := (entry_mem_steps h).mp hs
  exact ⟨dirs ++ [name], by simp, h.isName_of_chain hd hn, rfl⟩

/-- The path of a directory that cannot be opened is the path of the walk extended by names. -/
theorem exists_names_of_fault {l : Listing} (h : l.WellFormed) {path : String}
    {fault : Option Errno} {p : String} {e : Errno} (hs : Step.fault p e ∈ l.steps path fault) :
    ∃ names, (∀ n ∈ names, Path.IsName n) ∧ p = Path.extend path names := by
  rcases (fault_mem_steps h).mp hs with ⟨-, rfl⟩ | ⟨dirs, f, inside, name, g, i, -, hd, hn, -, rfl⟩
  · exact ⟨[], by simp, rfl⟩
  · exact ⟨dirs ++ [name], h.isName_of_chain hd hn, rfl⟩

end Listing

end TidyTree
