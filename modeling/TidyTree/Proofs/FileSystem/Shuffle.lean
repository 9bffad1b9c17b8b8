/-
TidyTree.Proofs.FileSystem.Shuffle — the order in which a system keeps
the entries of directories.

`Shuffled` relates two file systems that differ in that order only, in
any number of directories.  Names stand for the same things in both, so
paths lead to the same things: `resolve_shuffled` is the simulation, and
its one lemma about a single step is `entry?_shuffled`.
-/
import TidyTree.Proofs.FileSystem.WellFormed

namespace TidyTree

namespace Listing

/-! ## 1. Shuffled listings -/

/-- The same entries in another order, in the directory itself and in those below. -/
inductive Shuffled : Listing → Listing → Prop
  | nil : Shuffled .nil .nil
  | leaf (name : String) (lf : Leaf) {rest rest' : Listing} :
      Shuffled rest rest' → Shuffled (.leaf name lf rest) (.leaf name lf rest')
  | dir (name : String) (fault : Option Errno) {inside inside' rest rest' : Listing} :
      Shuffled inside inside' → Shuffled rest rest' →
      Shuffled (.dir name fault inside rest) (.dir name fault inside' rest')
  | swap (name other : String) (node node' : Node) (rest : Listing) :
      Shuffled (cons name node (cons other node' rest)) (cons other node' (cons name node rest))
  | trans {l m n : Listing} : Shuffled l m → Shuffled m n → Shuffled l n

theorem Shuffled.refl (l : Listing) : Shuffled l l := by
  induction l with
  | nil => exact .nil
  | leaf name lf rest ih => exact .leaf name lf ih
  | dir name fault inside rest ihi ih => exact .dir name fault ihi ih

end Listing

/-- The same leaf, or directories with the same fault and the same entries in another order. -/
inductive Node.Shuffled : Node → Node → Prop
  | leaf (lf : Leaf) : Shuffled (.leaf lf) (.leaf lf)
  | dir (fault : Option Errno) {inside inside' : Listing} :
      inside.Shuffled inside' → Shuffled (.dir fault inside) (.dir fault inside')

theorem Node.Shuffled.refl (node : Node) : Node.Shuffled node node := by
  cases node with
  | leaf lf => exact .leaf lf
  | dir fault inside => exact .dir fault (.refl inside)

theorem Node.Shuffled.trans {a b c : Node} (h : Node.Shuffled a b) (h' : Node.Shuffled b c) :
    Node.Shuffled a c := by
  cases h with
  | leaf lf => exact h'
  | dir fault hi =>
    cases h' with
    | dir _ hi' => exact .dir fault (hi.trans hi')

namespace Listing

theorem Shuffled.names_perm {l m : Listing} (h : Shuffled l m) : l.names.Perm m.names := by
  induction h with
  | nil => exact .nil
  | leaf name lf _ ih => exact ih.cons name
  | dir name fault _ _ _ ih => exact ih.cons name
  | swap name other node node' rest =>
    simp only [names_cons]
    exact .swap other name rest.names
  | trans _ _ ih ih' => exact ih.trans ih'

theorem WellFormed.swap {name other : String} {node node' : Node} {rest : Listing}
    (h : (cons name node (cons other node' rest)).WellFormed) :
    (cons other node' (cons name node rest)).WellFormed := by
  simp only [wellFormed_cons, names_cons, List.mem_cons, not_or] at *
  obtain ⟨hname, ⟨hne, hfresh⟩, hnode, hother, hfresh', hnode', hrest⟩ := h
  exact ⟨hother, ⟨Ne.symm hne, hfresh'⟩, hnode', hname, hfresh, hnode, hrest⟩

theorem Shuffled.wellFormed {l m : Listing} (h : Shuffled l m) (wf : l.WellFormed) :
    m.WellFormed := by
  induction h with
  | nil => exact trivial
  | leaf name lf hr ih =>
    exact ⟨wf.1, fun hm => wf.2.1 (hr.names_perm.mem_iff.mpr hm), ih wf.2.2⟩
  | dir name fault _ hr ihi ih =>
    exact ⟨wf.1, fun hm => wf.2.1 (hr.names_perm.mem_iff.mpr hm), ihi wf.2.2.1, ih wf.2.2.2⟩
  | swap name other node node' rest => exact wf.swap
  | trans _ _ ih ih' => exact ih' (ih wf)

/-- A name stands for the same in both listings. -/
theorem find?_shuffled {l m : Listing} (h : Shuffled l m) (wf : l.WellFormed) (key : String) :
    Option.Rel Node.Shuffled (l.find? key) (m.find? key) := by
  induction h with
  | nil => exact .none
  | leaf name lf _ ih =>
    simp only [find?]
    split
    · exact .some (.leaf lf)
    · exact ih wf.2.2
  | dir name fault hi _ _ ih =>
    simp only [find?]
    split
    · exact .some (.dir fault hi)
    · exact ih wf.2.2.2
  | swap name other node node' rest =>
    have hne : name ≠ other := by
      rintro rfl
      exact (wellFormed_cons.mp wf).2.1 (by simp)
    simp only [find?_cons]
    by_cases hn : name = key
    · subst hn
      simp only [if_pos, if_neg (Ne.symm hne)]
      exact .some (.refl node)
    · simp only [if_neg hn]
      cases (if other = key then some node' else rest.find? key) with
      | none => exact .none
      | some found => exact .some (.refl found)
  | @trans l m n hlm _ ih₁ ih₂ =>
    have r₁ := ih₁ wf
    have r₂ := ih₂ (hlm.wellFormed wf)
    generalize l.find? key = a at *
    generalize m.find? key = b at *
    generalize n.find? key = c at *
    cases r₁ with
    | none => exact r₂
    | some s₁ => cases r₂ with | some s₂ => exact .some (s₁.trans s₂)

/-- A chain of names leads to the same directory in both listings. -/
theorem descend_shuffled {l m : Listing} (h : Shuffled l m) (wf : l.WellFormed)
    (fault : Option Errno) (names : List String) :
    Option.Rel (fun d e => d.1 = e.1 ∧ d.2.Shuffled e.2) (l.descend fault names)
      (m.descend fault names) := by
  induction names generalizing l m fault with
  | nil =>
    rw [descend_nil, descend_nil]
    exact .some ⟨rfl, h⟩
  | cons name names ih =>
    rw [descend_cons, descend_cons]
    have hrel := find?_shuffled h wf name
    have hinside : ∀ f inside, l.find? name = some (.dir f inside) → inside.WellFormed :=
      fun f inside hl => wf.inside hl
    generalize l.find? name = a at *
    generalize m.find? name = b at *
    cases hrel with
    | none => exact .none
    | some hnode =>
      cases hnode with
      | leaf lf => exact .none
      | dir f hi => exact ih hi (hinside f _ rfl) f

end Listing

/-! ## 2. Shuffled file systems -/

namespace FileSystem

/-- File systems that differ only in the order in which directories keep their entries. -/
structure Shuffled (fs gs : FileSystem) : Prop where
  root : fs.root.Shuffled gs.root
  contents : gs.contents = fs.contents
  workingDirectory : gs.workingDirectory = fs.workingDirectory

variable {fs gs : FileSystem}

theorem directory?_shuffled (h : fs.Shuffled gs) (wf : fs.WellFormed) (place : List String) :
    Option.Rel (fun d e => d.1 = e.1 ∧ d.2.Shuffled e.2) (fs.directory? place)
      (gs.directory? place) :=
  Listing.descend_shuffled h.root wf none place

/-- What stands at a place is the same in both. -/
theorem entry?_shuffled (h : fs.Shuffled gs) (wf : fs.WellFormed) {place : List String}
    {name : String} {found found' : Option Node} (hfound : fs.entry? place name = found)
    (hfound' : gs.entry? place name = found') : Option.Rel Node.Shuffled found found' := by
  have hrel := directory?_shuffled h wf place
  have hinside : ∀ d, fs.directory? place = some d → d.2.WellFormed :=
    fun d hd => wf.inside hd
  rw [← hfound, ← hfound']
  unfold entry?
  generalize fs.directory? place = a at *
  generalize gs.directory? place = b at *
  cases hrel with
  | none => exact .none
  | some hde => exact Listing.find?_shuffled hde.2 (hinside _ rfl) name

/-- Answers that differ only in the order of entries. -/
inductive SameAnswer : Except Errno Resolved → Except Errno Resolved → Prop
  | error (e : Errno) : SameAnswer (.error e) (.error e)
  | file (id : Nat) : SameAnswer (.ok (.file id)) (.ok (.file id))
  | special : SameAnswer (.ok .special) (.ok .special)
  | directory (place : List String) (fault : Option Errno) {inside inside' : Listing} :
      inside.Shuffled inside' →
      SameAnswer (.ok (.directory place fault inside)) (.ok (.directory place fault inside'))

/-- Following components gives the same answer in both if links do. -/
theorem follow_shuffled (h : fs.Shuffled gs) (wf : fs.WellFormed)
    {onLink onLink' : String → List String → List String → Except Errno Resolved}
    (hlink : ∀ target here rest, SameAnswer (onLink target here rest) (onLink' target here rest))
    (cs place : List String) :
    SameAnswer (fs.follow onLink cs place) (gs.follow onLink' cs place) := by
  induction cs generalizing place with
  | nil =>
    have hrel := directory?_shuffled h wf place
    simp only [follow]
    generalize fs.directory? place = a at *
    generalize gs.directory? place = b at *
    cases hrel with
    | none => exact .error _
    | @some d e hde =>
      obtain ⟨fault, inside⟩ := d
      obtain ⟨fault', inside'⟩ := e
      obtain ⟨rfl, hi⟩ := hde
      exact .directory place _ hi
  | cons c cs ih =>
    simp only [follow]
    split
    · exact ih place
    · split
      · exact ih place.dropLast
      · split
        · exact .error _
        · generalize hfound : fs.entry? place c = found
          generalize hfound' : gs.entry? place c = found'
          cases entry?_shuffled h wf hfound hfound' with
          | none => exact .error _
          | some hnode =>
            cases hnode with
            | dir fault hi => exact ih (place ++ [c])
            | leaf lf =>
              cases lf with
              | link target => exact hlink target place cs
              | file id =>
                show SameAnswer (if cs = [] then _ else _) (if cs = [] then _ else _)
                split
                · exact .file id
                · exact .error _
              | special =>
                show SameAnswer (if cs = [] then _ else _) (if cs = [] then _ else _)
                split
                · exact .special
                · exact .error _

theorem resolveFrom_shuffled (h : fs.Shuffled gs) (wf : fs.WellFormed) (links : Nat)
    (cs place : List String) :
    SameAnswer (fs.resolveFrom links cs place) (gs.resolveFrom links cs place) := by
  induction links generalizing cs place with
  | zero => exact follow_shuffled h wf (fun _ _ _ => .error _) cs place
  | succ links ih => exact follow_shuffled h wf (fun _ _ _ => ih _ _) cs place

/-- Every path leads to the same in both. -/
theorem resolve_shuffled (h : fs.Shuffled gs) (wf : fs.WellFormed) (path : String) :
    SameAnswer (fs.resolve path) (gs.resolve path) := by
  unfold resolve
  rw [h.workingDirectory]
  split
  · exact .error _
  · exact resolveFrom_shuffled h wf linkLimit _ _

theorem isFile_shuffled (h : fs.Shuffled gs) (wf : fs.WellFormed) (path : String) :
    gs.isFile path = fs.isFile path := by
  have hsame := resolve_shuffled h wf path
  unfold isFile
  generalize fs.resolve path = a at *
  generalize gs.resolve path = b at *
  cases hsame <;> rfl

end FileSystem

end TidyTree
