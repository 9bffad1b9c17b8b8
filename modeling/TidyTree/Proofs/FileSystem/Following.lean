/-
TidyTree.Proofs.FileSystem.Following — following a path in two parts.

What is done with links is no part of following components, so links are
a parameter of `follow`, and a path with links is followed by the same
definition at every number of links (`resolveFrom_eq`).  From a name it
goes on by what stands under the name (`follow_cons_name`).  Following
some components, with any others behind them, ends in one of three ways
that do not depend on the others (`follow_cases`).  What leads to a
directory can therefore be followed first and the rest of the path from
there (`follow_append`), even if the path ends in slashes and so in empty
components, which lead nowhere else.
-/
import TidyTree.Proofs.FileSystem.WellFormed

namespace TidyTree.FileSystem

variable {fs : FileSystem} {path : String}

/-! ## 1. Texts that are paths -/

theorem textFault_eq_none_iff :
    textFault path = none ↔ path ≠ "" ∧ Path.isTooLong path = false ∧ Path.hasNul path = false := by
  unfold textFault
  by_cases hempty : path = "" <;> cases Path.isTooLong path <;> cases Path.hasNul path <;>
    simp [hempty]

/-! ## 2. Components and what stands behind them -/

/-- What comes of a symbolic link when so many may be followed. -/
def afterLink (fs : FileSystem) : (links : Nat) → String → List String → List String →
    Except Errno Resolved
  | 0, _, _, _ => .error .linkLoop
  | links + 1, target, here, rest =>
    fs.resolveFrom links (Path.components target ++ rest) (startOf target here)

theorem resolveFrom_eq (links : Nat) (cs place : List String) :
    fs.resolveFrom links cs place = fs.follow (fs.afterLink links) cs place := by
  cases links <;> rfl

/-- What is followed from a name with others behind it is said by what stands under it. -/
theorem follow_cons_name {onLink : String → List String → List String → Except Errno Resolved}
    {name : String} (hname : Path.IsName name) (cs place : List String) :
    fs.follow onLink (name :: cs) place = match fs.entry? place name with
      | none => .error .noEntry
      | some (.dir _ _) => fs.follow onLink cs (place ++ [name])
      | some (.leaf (.link target)) => onLink target place cs
      | some (.leaf (.file id)) => if cs = [] then .ok (.file id) else .error .notDirectory
      | some (.leaf .special) => if cs = [] then .ok .special else .error .notDirectory := by
  have hplain : ¬ (name = "" ∨ name = ".") := not_or.mpr ⟨hname.ne_empty, hname.ne_here⟩
  have hshort : ¬ (Path.isNameTooLong name = true) := by simp [hname.not_too_long]
  rewrite [follow, if_neg hplain, if_neg hname.ne_parent, if_neg hshort]
  rfl

/-- Empty components lead nowhere else. -/
theorem follow_blanks {onLink : String → List String → List String → Except Errno Resolved}
    {blanks : List String} (h : ∀ b ∈ blanks, b = "") (place : List String) :
    fs.follow onLink blanks place = fs.follow onLink [] place := by
  induction blanks with
  | nil => rfl
  | cons b bs ih =>
    rw [h b List.mem_cons_self]
    exact ih fun b' hb' => h b' (List.mem_cons_of_mem b hb')

/-- No directory is led to. -/
def NoDirectory (answer : Except Errno Resolved) : Prop :=
  ∀ place fault inside, answer ≠ .ok (.directory place fault inside)

theorem noDirectory_error (e : Errno) : NoDirectory (.error e) := fun _ _ _ h => by cases h

theorem noDirectory_file (id : Nat) : NoDirectory (.ok (.file id)) := fun _ _ _ h => by cases h

theorem noDirectory_special : NoDirectory (.ok .special) := fun _ _ _ h => by cases h

theorem NoDirectory.ite {c : Prop} [Decidable c] {a b : Except Errno Resolved}
    (ha : NoDirectory a) (hb : NoDirectory b) : NoDirectory (if c then a else b) := by
  split
  · exact ha
  · exact hb

/-- Following components, with others behind them, goes on behind the last one, hands over a link,
or gives an answer that is no directory; what is done with links has no part in which of these it
is. -/
theorem follow_cases (fs : FileSystem) (cs place : List String) :
    (∃ last, ∀ onLink more, fs.follow onLink (cs ++ more) place = fs.follow onLink more last) ∨
    (∃ target here rest, ∀ onLink more,
      fs.follow onLink (cs ++ more) place = onLink target here (rest ++ more)) ∨
    ∀ more, ∃ answer, NoDirectory answer ∧
      ∀ onLink, fs.follow onLink (cs ++ more) place = answer := by
  induction cs generalizing place with
  | nil => exact Or.inl ⟨place, fun onLink more => rfl⟩
  | cons c cs ih =>
    simp only [List.cons_append, follow]
    by_cases hblank : c = "" ∨ c = "."
    · simpa only [if_pos hblank] using ih place
    by_cases hparent : c = ".."
    · simpa only [if_neg hblank, if_pos hparent] using ih place.dropLast
    by_cases hlong : Path.isNameTooLong c = true
    · simp only [if_neg hblank, if_neg hparent, if_pos hlong]
      exact Or.inr (Or.inr fun _ => ⟨_, noDirectory_error _, fun _ => rfl⟩)
    simp only [if_neg hblank, if_neg hparent, if_neg hlong]
    cases fs.entry? place c with
    | none => exact Or.inr (Or.inr fun _ => ⟨_, noDirectory_error _, fun _ => rfl⟩)
    | some node =>
      cases node with
      | dir f inside => exact ih (place ++ [c])
      | leaf lf =>
        cases lf with
        | link target => exact Or.inr (Or.inl ⟨target, place, cs, fun _ _ => rfl⟩)
        | file id =>
          have hanswer : ∀ more, NoDirectory
              (if cs ++ more = [] then .ok (.file id) else .error .notDirectory) :=
            fun more => (noDirectory_file id).ite (noDirectory_error _)
          exact Or.inr (Or.inr fun more => ⟨_, hanswer more, fun _ => rfl⟩)
        | special =>
          have hanswer : ∀ more, NoDirectory
              (if cs ++ more = [] then .ok .special else .error .notDirectory) :=
            fun more => noDirectory_special.ite (noDirectory_error _)
          exact Or.inr (Or.inr fun more => ⟨_, hanswer more, fun _ => rfl⟩)

/-- Where following the first components, perhaps with empty ones behind them, leads to a directory,
following all of them leads where the others lead from there, or there is a link on the way to
both. -/
theorem follow_directory
    {onLink : String → List String → List String → Except Errno Resolved} {last : List String}
    {fault : Option Errno} {inside : Listing} {blanks cs place : List String}
    (hblanks : ∀ b ∈ blanks, b = "")
    (h : fs.follow onLink (cs ++ blanks) place = .ok (.directory last fault inside)) :
    (∀ onLink' more, fs.follow onLink' (cs ++ more) place = fs.follow onLink' more last) ∨
    ∃ target here rest, onLink target here (rest ++ blanks) = .ok (.directory last fault inside) ∧
      ∀ onLink' more,
        fs.follow onLink' (cs ++ more) place = onLink' target here (rest ++ more) := by
  rcases fs.follow_cases cs place with
    ⟨final, hfinal⟩ | ⟨target, here, rest, hlink⟩ | hnone
  · rw [hfinal, follow_blanks hblanks, follow] at h
    split at h
    · cases h
      exact Or.inl hfinal
    · cases h
  · exact Or.inr ⟨target, here, rest, (hlink onLink blanks).symm.trans h, hlink⟩
  · obtain ⟨answer, hno, hanswer⟩ := hnone blanks
    exact absurd ((hanswer onLink).symm.trans h) (hno last fault inside)

/-- Where following the first components, perhaps with empty ones behind them, leads to a directory,
following all of them leads where the others lead from there, if links do. -/
theorem follow_append
    {onLink onLink' : String → List String → List String → Except Errno Resolved}
    {Q : Except Errno Resolved → Prop} {last : List String} {fault : Option Errno}
    {inside : Listing} {blanks more : List String} (hblanks : ∀ b ∈ blanks, b = "")
    (hlast : Q (fs.follow onLink' more last))
    (hlink : ∀ target place rest,
      onLink target place (rest ++ blanks) = .ok (.directory last fault inside) →
        Q (onLink' target place (rest ++ more)))
    {cs place : List String}
    (h : fs.follow onLink (cs ++ blanks) place = .ok (.directory last fault inside)) :
    Q (fs.follow onLink' (cs ++ more) place) := by
  rcases follow_directory hblanks h with hend | ⟨target, here, rest, hhanded, hsame⟩
  · rw [hend]
    exact hlast
  · rw [hsame]
    exact hlink target here rest hhanded

end TidyTree.FileSystem
