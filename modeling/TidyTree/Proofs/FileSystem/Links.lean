/-
TidyTree.Proofs.FileSystem.Links — how many links a path needs.

A path that leads to a directory uses a certain number of symbolic
links, and what stands behind it has those that are left
(`resolveFrom_behind`).  To allow more links changes no answer that
there is (`resolveFrom_add`).  So what two paths of one directory lead
to behind a name can only differ by what they have left of the links
that the system follows; whether a file is reached through any number of
links (`ReachesFile`) does not differ.
-/
import TidyTree.Proofs.FileSystem.Below

namespace TidyTree.FileSystem

variable {fs : FileSystem} {cs place last : List String} {links : Nat} {fault : Option Errno}
  {inside : Listing}

/-! ## 1. Counting links -/

/-- Following components to the end has the same answer, if links that have one keep it. -/
theorem follow_eq_ok {onLink onLink' : String → List String → List String → Except Errno Resolved}
    {r : Resolved}
    (hlink : ∀ target here rest, onLink target here rest = .ok r → onLink' target here rest = .ok r)
    (h : fs.follow onLink cs place = .ok r) : fs.follow onLink' cs place = .ok r := by
  rw [← List.append_nil cs] at h ⊢
  rcases fs.follow_cases cs place with
    ⟨final, hfinal⟩ | ⟨target, here, rest, hhanded⟩ | hnone
  · rw [hfinal] at h ⊢
    exact h
  · rw [hhanded] at h ⊢
    exact hlink target here _ h
  · obtain ⟨answer, -, hanswer⟩ := hnone []
    rw [hanswer] at h ⊢
    exact h

/-- An answer does not change if more links may be followed. -/
theorem resolveFrom_add {r : Resolved} (h : fs.resolveFrom links cs place = .ok r) (extra : Nat) :
    fs.resolveFrom (links + extra) cs place = .ok r := by
  induction links generalizing cs place with
  | zero =>
    rw [resolveFrom_eq] at h ⊢
    exact follow_eq_ok (fun _ _ _ hl => by cases hl) h
  | succ links ih =>
    rw [resolveFrom_eq] at h
    rw [Nat.succ_add, resolveFrom_eq]
    exact follow_eq_ok (fun target here rest hl => ih hl) h

/-- There is one answer, however many links may be followed. -/
theorem resolveFrom_unique {few : Nat} {r s : Resolved}
    (hr : fs.resolveFrom links cs place = .ok r) (hs : fs.resolveFrom few cs place = .ok s) :
    r = s := by
  have hr' := resolveFrom_add hr few
  rw [Nat.add_comm, resolveFrom_add hs links] at hr'
  exact (Except.ok.inj hr').symm

/-- Components that lead to a directory use some of the links, and those behind them have the
others. -/
theorem resolveFrom_behind {blanks : List String} (hblanks : ∀ b ∈ blanks, b = "")
    (h : fs.resolveFrom links (cs ++ blanks) place = .ok (.directory last fault inside)) :
    ∃ used, ∀ left more,
      fs.resolveFrom (used + left) (cs ++ more) place = fs.resolveFrom left more last := by
  induction links generalizing cs place with
  | zero =>
    rw [resolveFrom_eq] at h
    rcases follow_directory hblanks h with hlast | ⟨target, here, rest, hhanded, -⟩
    · refine ⟨0, fun left more => ?_⟩
      rw [Nat.zero_add, resolveFrom_eq, resolveFrom_eq, hlast]
    · cases hhanded
  | succ links ih =>
    rw [resolveFrom_eq] at h
    rcases follow_directory hblanks h with hlast | ⟨target, here, rest, hhanded, hsame⟩
    · refine ⟨0, fun left more => ?_⟩
      rw [Nat.zero_add, resolveFrom_eq, resolveFrom_eq, hlast]
    · rw [afterLink, ← List.append_assoc] at hhanded
      obtain ⟨used, hbehind⟩ := ih hhanded
      refine ⟨used + 1, fun left more => ?_⟩
      rw [Nat.succ_add, resolveFrom_eq, hsame, afterLink, ← List.append_assoc]
      exact hbehind left more

/-- What a name leads to with others behind it is said by what stands under it. -/
theorem resolveFrom_cons {name : String} (hname : Path.IsName name) (links : Nat)
    (cs place : List String) :
    fs.resolveFrom links (name :: cs) place = match fs.entry? place name with
      | none => .error .noEntry
      | some (.dir _ _) => fs.resolveFrom links cs (place ++ [name])
      | some (.leaf (.link target)) => fs.afterLink links target place cs
      | some (.leaf (.file id)) => if cs = [] then .ok (.file id) else .error .notDirectory
      | some (.leaf .special) => if cs = [] then .ok .special else .error .notDirectory := by
  rw [resolveFrom_eq, follow_cons_name hname]
  cases fs.entry? place name with
  | none => rfl
  | some node =>
    cases node with
    | dir fault inside => exact (resolveFrom_eq links cs (place ++ [name])).symm
    | leaf node => cases node <;> rfl

/-! ## 2. Reaching a file -/

/-- The path leads to a regular file, if enough symbolic links are followed. -/
def ReachesFile (fs : FileSystem) (path : String) : Prop :=
  ∃ links id, fs.resolveFrom links (Path.components path) (startOf path fs.workingDirectory) =
    .ok (.file id)

theorem resolveFrom_of_resolve {path : String} {r : Resolved} (h : fs.resolve path = .ok r) :
    fs.resolveFrom linkLimit (Path.components path) (startOf path fs.workingDirectory) = .ok r := by
  unfold resolve at h
  split at h
  · cases h
  · exact h

theorem reachesFile_of_resolve {path : String} {id : Nat} (h : fs.resolve path = .ok (.file id)) :
    fs.ReachesFile path :=
  ⟨linkLimit, id, resolveFrom_of_resolve h⟩

/-- A path that leads to something else reaches no file. -/
theorem not_reachesFile {path : String} {r : Resolved} (h : fs.resolve path = .ok r)
    (hr : ∀ id, r ≠ .file id) : ¬ fs.ReachesFile path := by
  rintro ⟨links, id, hfile⟩
  exact hr id (resolveFrom_unique (resolveFrom_of_resolve h) hfile)

/-- Whether a name in a directory reaches a file does not depend on the path of the directory. -/
theorem reachesFile_join {root name : String} (hname : Path.IsName name)
    (h : fs.resolve root = .ok (.directory place fault inside)) :
    fs.ReachesFile (Path.join root name) ↔
      ∃ links id, fs.resolveFrom links [name] place = .ok (.file id) := by
  have hroot : root ≠ "" := by
    rintro rfl
    cases h
  obtain ⟨front, blanks, hblanks, hcomponents, hjoin⟩ := Path.components_join root hname
  have hfollowed := resolveFrom_of_resolve h
  rw [hcomponents] at hfollowed
  obtain ⟨used, hbehind⟩ := resolveFrom_behind hblanks hfollowed
  have hstart : startOf (Path.join root name) fs.workingDirectory =
      startOf root fs.workingDirectory := by
    rw [startOf, startOf, Path.isAbsolute_join hroot]
  rw [ReachesFile, hjoin, hstart]
  constructor
  · rintro ⟨links, id, hfile⟩
    refine ⟨links, id, ?_⟩
    rw [← hbehind links, Nat.add_comm]
    exact resolveFrom_add hfile used
  · rintro ⟨links, id, hfile⟩
    exact ⟨used + links, id, (hbehind links [name]).trans hfile⟩

end TidyTree.FileSystem
