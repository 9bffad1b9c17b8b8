/-
TidyTree.Proofs.FileSystem.WellFormed — what a system promises of a
directory, and what looking up names gives then.

A `Listing` may hold any entries.  A directory holds entries whose names
are names, and no two of one name; `Listing.WellFormed` says so of a
directory and of all below it.  In a well-formed listing a name stands
for one entry, so what is found under it is all there is to know.

`directory?_of_resolve` says that a path which leads to a directory
leads to what stands at the place it names.
-/
import Mathlib.Data.List.Basic
import TidyTree.FileSystem.Resolve
import TidyTree.Proofs.Path.Relative

namespace TidyTree

namespace Listing

/-! ## 1. Entry by entry -/

/-- The listing with one more entry in front. -/
def cons (name : String) : Node → Listing → Listing
  | .leaf l, rest => leaf name l rest
  | .dir fault inside, rest => dir name fault inside rest

@[simp] theorem names_cons (name : String) (node : Node) (rest : Listing) :
    (cons name node rest).names = name :: rest.names := by
  cases node <;> rfl

theorem find?_cons (name key : String) (node : Node) (rest : Listing) :
    (cons name node rest).find? key = if name = key then some node else rest.find? key := by
  cases node <;> rfl

/-- A listing is built entry by entry, whatever the entries are. -/
theorem cons_induction {P : Listing → Prop} (nil : P .nil)
    (cons : ∀ name node rest, P rest → P (cons name node rest)) (l : Listing) : P l := by
  induction l with
  | nil => exact nil
  | leaf name lf rest ih => exact cons name (.leaf lf) rest ih
  | dir name fault inside rest _ ih => exact cons name (.dir fault inside) rest ih

/-! ## 2. Well-formed listings -/

/-- The entries have names, each one of its own, and so have those of all directories below. -/
def WellFormed : Listing → Prop
  | nil => True
  | leaf name _ rest => Path.IsName name ∧ name ∉ rest.names ∧ rest.WellFormed
  | dir name _ inside rest =>
    Path.IsName name ∧ name ∉ rest.names ∧ inside.WellFormed ∧ rest.WellFormed

/-- Whether a listing is well-formed can be checked. -/
def decideWellFormed : (l : Listing) → Decidable l.WellFormed
  | nil => isTrue trivial
  | leaf name _ rest =>
    have := rest.decideWellFormed
    inferInstanceAs (Decidable (Path.IsName name ∧ name ∉ rest.names ∧ rest.WellFormed))
  | dir name _ inside rest =>
    have := inside.decideWellFormed
    have := rest.decideWellFormed
    inferInstanceAs (Decidable
      (Path.IsName name ∧ name ∉ rest.names ∧ inside.WellFormed ∧ rest.WellFormed))

instance (l : Listing) : Decidable l.WellFormed := l.decideWellFormed

end Listing

/-- What stands under a name is well-formed: a leaf always is. -/
def Node.WellFormed : Node → Prop
  | .leaf _ => True
  | .dir _ inside => inside.WellFormed

namespace Listing

theorem wellFormed_cons {name : String} {node : Node} {rest : Listing} :
    (cons name node rest).WellFormed ↔
      Path.IsName name ∧ name ∉ rest.names ∧ node.WellFormed ∧ rest.WellFormed := by
  cases node with
  | leaf lf => simp [cons, WellFormed, Node.WellFormed]
  | dir fault inside => rfl

/-! ## 3. Looking up names -/

theorem ne_of_find? {l : Listing} {n name : String} {node : Node} (hn : n ∉ l.names)
    (h : l.find? name = some node) : n ≠ name := by
  rintro rfl
  exact hn (mem_names_of_find? h)

theorem WellFormed.nodup {l : Listing} (h : l.WellFormed) : l.names.Nodup := by
  induction l using cons_induction with
  | nil => exact List.nodup_nil
  | cons n node rest ih =>
    obtain ⟨-, hfresh, -, hrest⟩ := wellFormed_cons.mp h
    rw [names_cons]
    exact List.nodup_cons.mpr ⟨hfresh, ih hrest⟩

theorem WellFormed.isName {l : Listing} (h : l.WellFormed) {name : String} (hn : name ∈ l.names) :
    Path.IsName name := by
  induction l using cons_induction with
  | nil => simp [names] at hn
  | cons n node rest ih =>
    obtain ⟨hname, -, -, hrest⟩ := wellFormed_cons.mp h
    rw [names_cons] at hn
    rcases List.mem_cons.mp hn with rfl | hn
    · exact hname
    · exact ih hrest hn

theorem WellFormed.isName_of_find? {l : Listing} (h : l.WellFormed) {name : String} {node : Node}
    (hf : l.find? name = some node) : Path.IsName name :=
  h.isName (mem_names_of_find? hf)

/-- What is found in a well-formed listing is well-formed. -/
theorem WellFormed.found {l : Listing} (h : l.WellFormed) {name : String} {node : Node}
    (hf : l.find? name = some node) : node.WellFormed := by
  induction l using cons_induction with
  | nil => simp [find?] at hf
  | cons n first rest ih =>
    obtain ⟨-, -, hfirst, hrest⟩ := wellFormed_cons.mp h
    rw [find?_cons] at hf
    split at hf
    · cases hf
      exact hfirst
    · exact ih hrest hf

theorem WellFormed.inside {l inside : Listing} (h : l.WellFormed) {name : String}
    {fault : Option Errno} (hf : l.find? name = some (.dir fault inside)) : inside.WellFormed :=
  h.found hf

/-- What holds of a listing as soon as it holds of all its directories holds of every listing. -/
theorem inside_induction {P : Listing → Prop}
    (step : ∀ l : Listing,
      (∀ name fault inside, l.find? name = some (.dir fault inside) → P inside) → P l)
    (l : Listing) : P l := by
  apply step
  induction l with
  | nil => intro name fault inside h; simp [find?] at h
  | leaf n lf rest ih =>
    intro name fault inside h
    simp only [find?] at h
    split at h
    · simp at h
    · exact ih _ _ _ h
  | dir n fault' inside' rest ihi ih =>
    intro name fault inside h
    simp only [find?] at h
    split at h
    · cases h; exact step _ ihi
    · exact ih _ _ _ h

/-! ## 4. Chains of directories -/

@[simp] theorem descend_nil (fault : Option Errno) (l : Listing) :
    l.descend fault [] = some (fault, l) := by
  cases l <;> rfl

theorem descend_cons (fault : Option Errno) (l : Listing) (name : String) (names : List String) :
    l.descend fault (name :: names) = match l.find? name with
      | some (.dir f inside) => inside.descend f names
      | _ => none := by
  cases l <;> rfl

/-- A chain of directories can be followed in two parts. -/
theorem descend_append (names more : List String) (fault : Option Errno) (l : Listing) :
    l.descend fault (names ++ more) =
      (l.descend fault names).bind fun d => d.2.descend d.1 more := by
  induction names generalizing fault l with
  | nil => simp
  | cons name names ih =>
    rw [List.cons_append, descend_cons, descend_cons]
    cases l.find? name with
    | none => rfl
    | some node =>
      cases node with
      | leaf lf => rfl
      | dir f inside => exact ih f inside

theorem WellFormed.descend {l inside : Listing} (h : l.WellFormed) {names : List String}
    {fault f : Option Errno} (hd : l.descend fault names = some (f, inside)) :
    inside.WellFormed := by
  induction names generalizing l fault with
  | nil =>
    simp only [descend_nil, Option.some.injEq, Prod.mk.injEq] at hd
    exact hd.2 ▸ h
  | cons name names ih =>
    rw [descend_cons] at hd
    split at hd
    · next f' inside' hf => exact ih (h.inside hf) hd
    · simp at hd

end Listing

/-! ## 5. File systems -/

namespace FileSystem

/-- All directories of the file system are as a system keeps them. -/
def WellFormed (fs : FileSystem) : Prop := fs.root.WellFormed

instance (fs : FileSystem) : Decidable fs.WellFormed :=
  inferInstanceAs (Decidable fs.root.WellFormed)

theorem WellFormed.inside {fs : FileSystem} (h : fs.WellFormed) {place : List String}
    {fault : Option Errno} {inside : Listing} (hd : fs.directory? place = some (fault, inside)) :
    inside.WellFormed :=
  Listing.WellFormed.descend h hd

theorem directory?_append {fs : FileSystem} {place : List String} {fault : Option Errno}
    {inside : Listing} (h : fs.directory? place = some (fault, inside)) (names : List String) :
    fs.directory? (place ++ names) = inside.descend fault names := by
  have h : fs.root.descend none place = some (fault, inside) := h
  rw [directory?, Listing.descend_append, h]
  rfl

theorem entry?_eq_find? {fs : FileSystem} {place : List String} {fault : Option Errno}
    {inside : Listing} (h : fs.directory? place = some (fault, inside)) (name : String) :
    fs.entry? place name = inside.find? name := by
  unfold entry?
  rw [h]

/-- A directory is what stands under its name in the directory above it. -/
theorem directory?_snoc_iff {fs : FileSystem} {place : List String} {name : String}
    {f : Option Errno} {l : Listing} :
    fs.directory? (place ++ [name]) = some (f, l) ↔ fs.entry? place name = some (.dir f l) := by
  rw [directory?, Listing.descend_append, entry?, directory?]
  cases fs.root.descend none place with
  | none => simp
  | some d =>
    obtain ⟨g, above⟩ := d
    rw [Option.bind_some, Listing.descend_cons]
    cases hf : above.find? name with
    | none => simp [hf]
    | some node => cases node <;> simp [hf]

/-- Following components ends in a directory that stands where it is said to stand, if links do. -/
theorem directory?_of_follow {fs : FileSystem}
    {onLink : String → List String → List String → Except Errno Resolved}
    (hlink : ∀ {target here rest place fault inside},
      onLink target here rest = .ok (.directory place fault inside) →
      fs.directory? place = some (fault, inside))
    {cs start place : List String} {fault : Option Errno} {inside : Listing}
    (h : fs.follow onLink cs start = .ok (.directory place fault inside)) :
    fs.directory? place = some (fault, inside) := by
  induction cs generalizing start with
  | nil =>
    simp only [follow] at h
    split at h
    · next f i hd => cases h; exact hd
    · cases h
  | cons c cs ih =>
    simp only [follow] at h
    split at h
    · exact ih h
    · split at h
      · exact ih h
      · split at h
        · cases h
        · split at h
          · cases h
          · exact ih h
          · exact hlink h
          · split at h <;> cases h
          · split at h <;> cases h

theorem directory?_of_resolveFrom {fs : FileSystem} {links : Nat} {cs start place : List String}
    {fault : Option Errno} {inside : Listing}
    (h : fs.resolveFrom links cs start = .ok (.directory place fault inside)) :
    fs.directory? place = some (fault, inside) := by
  induction links generalizing cs start place fault inside with
  | zero => exact directory?_of_follow (fun h => by cases h) h
  | succ links ih => exact directory?_of_follow (fun h => ih h) h

/-- A path that leads to a directory leads to what stands at the place it names. -/
theorem directory?_of_resolve {fs : FileSystem} {path : String} {place : List String}
    {fault : Option Errno} {inside : Listing}
    (h : fs.resolve path = .ok (.directory place fault inside)) :
    fs.directory? place = some (fault, inside) := by
  unfold resolve at h
  split at h
  · cases h
  · exact directory?_of_resolveFrom h

/-! ## 6. An example -/

/-- The entries of a directory that come behind `a.h` and `a-b`: the directory `a` with a second
name of a file and links to a file, to themselves, to nothing and to a directory, a closed
directory, one that is called like a source, a pipe, and a file that is no source. -/
def sampleOthers : Listing :=
  .dir "a" none
    (.leaf "z.h" (.file 0) (.leaf "up.h" (.link "../a.h") (.leaf "loop.h" (.link "loop.h")
      (.leaf "gone.h" (.link "nowhere") (.leaf "back.h" (.link "..") .nil)))))
  (.dir "closed" (some ⟨13⟩) (.leaf "hidden.h" (.file 2) .nil)
    (.dir "dir.h" none .nil (.leaf "pipe.h" .special (.leaf "notes.txt" (.file 3) .nil))))

/-- The directory `a-b` in front of other entries. -/
def sampleDeep (others : Listing) : Listing :=
  .dir "a-b" none (.leaf "deep.cpp" (.file 1) .nil) others

/-- A file system with a directory and a link to it. -/
def sampleOf (sources : Listing) : FileSystem where
  root := .dir "here" none (.dir "src" none sources (.leaf "link" (.link "src") .nil)) .nil
  contents := List.replicate 4 default
  workingDirectory := ["here"]

/-- The sources, with entries of all kinds. -/
def sampleSources : Listing := .leaf "a.h" (.file 0) (sampleDeep sampleOthers)

/-- The file system with these sources. -/
def sample : FileSystem := sampleOf sampleSources

end FileSystem

end TidyTree
