/-
TidyTree.Proofs.FileSystem.Shut — directories that can no longer be
listed.

`shut why` is the file system in which listing fails for each directory
to whose place `why` gives an error; what failed before goes on failing
as it did.  Nothing else changes: paths lead where they led
(`resolve_shut`), and a directory can be opened if it could before and
is not shut (`canOpen_shut_iff`).
-/
import TidyTree.Proofs.Discovery.Walked

namespace TidyTree

/-! ## 1. Shutting directories -/

/-- The entries of the directory at `place` with all directories below shut to whose places `why`
gives an error. -/
def Listing.shut (why : List String → Option Errno) : (place : List String) → Listing → Listing
  | _, .nil => .nil
  | place, .leaf name l rest => .leaf name l (rest.shut why place)
  | place, .dir name fault inside rest =>
    .dir name (fault.or (why (place ++ [name]))) (inside.shut why (place ++ [name]))
      (rest.shut why place)

/-- What stands at `place`, shut with all directories below. -/
def Node.shut (why : List String → Option Errno) (place : List String) : Node → Node
  | .leaf l => .leaf l
  | .dir fault inside => .dir (fault.or (why place)) (inside.shut why place)

/-- The file system with the directories shut to whose places `why` gives an error.  The directory
at the top has no place to be shut by. -/
def FileSystem.shut (fs : FileSystem) (why : List String → Option Errno) : FileSystem :=
  { fs with root := fs.root.shut why [] }

/-- What a path leads to once directories are shut. -/
def Resolved.shut (why : List String → Option Errno) : Resolved → Resolved
  | .directory place fault inside =>
    .directory place (fault.or (why place)) (inside.shut why place)
  | .file id => .file id
  | .special => .special

variable {why : List String → Option Errno}

@[simp] theorem Node.kind_shut (place : List String) (node : Node) :
    (node.shut why place).kind = node.kind := by
  cases node <;> rfl

namespace Listing

theorem shut_cons (place : List String) (name : String) (node : Node) (rest : Listing) :
    (cons name node rest).shut why place =
      cons name (node.shut why (place ++ [name])) (rest.shut why place) := by
  cases node <;> rfl

@[simp] theorem names_shut (place : List String) (l : Listing) :
    (l.shut why place).names = l.names := by
  induction l using cons_induction with
  | nil => rfl
  | cons n node rest ih => rw [shut_cons, names_cons, names_cons, ih]

theorem find?_shut (place : List String) (l : Listing) (name : String) :
    (l.shut why place).find? name = (l.find? name).map (Node.shut why (place ++ [name])) := by
  induction l using cons_induction with
  | nil => rfl
  | cons n node rest ih =>
    rw [shut_cons, find?_cons, find?_cons, ih]
    split
    · next h => rw [h]; rfl
    · rfl

theorem WellFormed.shut {l : Listing} (h : l.WellFormed) (place : List String) :
    (l.shut why place).WellFormed := by
  induction l generalizing place with
  | nil => exact trivial
  | leaf name l rest ih => exact ⟨h.1, by rw [names_shut]; exact h.2.1, ih h.2.2 place⟩
  | dir name fault inside rest ihi ih =>
    exact ⟨h.1, by rw [names_shut]; exact h.2.1, ihi h.2.2.1 (place ++ [name]), ih h.2.2.2 place⟩

/-- A chain of names leads to the same directory, which may be shut. -/
theorem descend_shut (place names : List String) (fault : Option Errno) (l : Listing) :
    (l.shut why place).descend (fault.or (why place)) names =
      (l.descend fault names).map fun d =>
        (d.1.or (why (place ++ names)), d.2.shut why (place ++ names)) := by
  induction names generalizing place fault l with
  | nil => simp
  | cons name names ih =>
    rw [descend_cons, descend_cons, find?_shut]
    cases l.find? name with
    | none => rfl
    | some node =>
      cases node with
      | leaf lf => rfl
      | dir f inside =>
        have hrest := ih (place ++ [name]) f inside
        rw [List.append_assoc, List.singleton_append] at hrest
        exact hrest

end Listing

/-! ## 2. What paths lead to -/

namespace FileSystem

variable {fs : FileSystem}

theorem WellFormed.shut (wf : fs.WellFormed) : (fs.shut why).WellFormed :=
  Listing.WellFormed.shut wf []

theorem directory?_shut (htop : why [] = none) (place : List String) :
    (fs.shut why).directory? place =
      (fs.directory? place).map fun d => (d.1.or (why place), d.2.shut why place) := by
  have h : (fs.root.shut why []).descend (none.or (why [])) place = _ :=
    Listing.descend_shut [] place none fs.root
  rw [htop, Option.or_none] at h
  exact h

theorem entry?_shut (htop : why [] = none) (place : List String) (name : String) :
    FileSystem.entry? (fs.shut why) place name =
      Node.shut why (place ++ [name]) <$> fs.entry? place name := by
  unfold entry?
  rw [directory?_shut htop]
  cases fs.directory? place with
  | none => rfl
  | some d => exact Listing.find?_shut place d.2 name

/-- Components are followed to the same place, if links are. -/
theorem follow_shut (htop : why [] = none)
    {onLink onLink' : String → List String → List String → Except Errno Resolved}
    (hlink : ∀ target here rest,
      onLink' target here rest = (onLink target here rest).map (Resolved.shut why))
    (cs place : List String) :
    (fs.shut why).follow onLink' cs place =
      (fs.follow onLink cs place).map (Resolved.shut why) := by
  induction cs generalizing place with
  | nil =>
    simp only [follow, directory?_shut htop]
    cases fs.directory? place <;> rfl
  | cons c cs ih =>
    simp only [follow, entry?_shut htop]
    split
    · exact ih place
    · split
      · exact ih place.dropLast
      · split
        · rfl
        · cases fs.entry? place c with
          | none => rfl
          | some node =>
            cases node with
            | dir fault inside => exact ih (place ++ [c])
            | leaf lf =>
              cases lf with
              | link target => exact hlink target place cs
              | file id => by_cases h : cs = [] <;> simp [Node.shut, h, Except.map, Resolved.shut]
              | special => by_cases h : cs = [] <;> simp [Node.shut, h, Except.map, Resolved.shut]

theorem resolveFrom_shut (htop : why [] = none) (links : Nat) (cs place : List String) :
    (fs.shut why).resolveFrom links cs place =
      (fs.resolveFrom links cs place).map (Resolved.shut why) := by
  induction links generalizing cs place with
  | zero =>
    have hlink : ∀ (_ : String) (_ _ : List String),
        (Except.error .linkLoop : Except Errno Resolved) =
          (Except.error .linkLoop : Except Errno Resolved).map (Resolved.shut why) :=
      fun _ _ _ => rfl
    exact follow_shut htop hlink cs place
  | succ links ih => exact follow_shut htop (fun _ _ _ => ih _ _) cs place

/-- Every path leads where it led before. -/
theorem resolve_shut (htop : why [] = none) (path : String) :
    (fs.shut why).resolve path = (fs.resolve path).map (Resolved.shut why) := by
  unfold resolve
  split
  · rfl
  · exact resolveFrom_shut htop linkLimit _ _

theorem isFile_shut (htop : why [] = none) (path : String) :
    (fs.shut why).isFile path = fs.isFile path := by
  rw [isFile, isFile, resolve_shut htop]
  cases fs.resolve path with
  | error e => rfl
  | ok found => cases found <;> rfl

/-! ## 3. What can be opened -/

/-- A directory can be opened if it could before and is not shut. -/
theorem canOpen_shut_iff (htop : why [] = none) {place : List String} {path : String} :
    (fs.shut why).CanOpen place path ↔ fs.CanOpen place path ∧ why place = none := by
  rw [CanOpen, CanOpen, directory?_shut htop]
  constructor
  · rintro ⟨hlong, inside', hd'⟩
    obtain ⟨⟨fault, inside⟩, hd, heq⟩ := Option.map_eq_some_iff.mp hd'
    obtain ⟨hfault, -⟩ := Prod.mk.inj heq
    obtain ⟨rfl, hwhy⟩ := Option.or_eq_none_iff.mp hfault
    exact ⟨⟨hlong, inside, hd⟩, hwhy⟩
  · rintro ⟨⟨hlong, inside, hd⟩, hwhy⟩
    exact ⟨hlong, inside.shut why place, by rw [hd]; simp [hwhy]⟩

/-- A directory is refused as it was before, or because it is shut now and was not refused. -/
theorem refuses_shut_iff (htop : why [] = none) {place : List String} {path : String} {e : Errno} :
    (fs.shut why).Refuses place path e ↔
      fs.Refuses place path e ∨ fs.CanOpen place path ∧ why place = some e := by
  simp only [Refuses, CanOpen, directory?_shut htop]
  cases hd : fs.directory? place with
  | none => simp
  | some d =>
    obtain ⟨fault, inside⟩ := d
    cases hlong : Path.isTooLong path with
    | true => simp [openFault, hlong]
    | false => cases fault <;> simp [openFault, hlong]

end FileSystem

end TidyTree
