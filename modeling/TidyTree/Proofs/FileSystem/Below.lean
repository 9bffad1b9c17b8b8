/-
TidyTree.Proofs.FileSystem.Below — a path with one more name.

Where a path leads to a directory, the path with the name of a directory
in it leads to that one (`resolve_join`).  The new path is followed as
the old one was, through the same links, up to the name that is new.  If
the old path ends in a slash, the empty component behind it gives way to
the name; if not, the name comes behind all components.
-/
import TidyTree.Proofs.FileSystem.Following

namespace TidyTree

/-! ## 1. Components of a longer path -/

namespace Path

/-- The components of a path with one more name: the name comes behind all others, or in the place
of the empty one behind the last slash. -/
theorem components_join (root : String) {name : String} (hname : IsName name) :
    ∃ front blanks, (∀ b ∈ blanks, b = "") ∧ components root = front ++ blanks ∧
      components (join root name) = front ++ [name] := by
  have hjoin : ∀ cs : List Char, (join root name).toList = cs ++ '/' :: name.toList →
      components (join root name) = (split cs).map String.ofList ++ [name] := by
    intro cs hcs
    rw [components, hcs, split_append_slash, split_of_no_slash hname.no_slash, List.map_append,
      List.map_singleton, String.ofList_toList]
  cases hslash : endsInSlash root with
  | false =>
    refine ⟨components root, [], by simp, (List.append_nil _).symm, hjoin root.toList ?_⟩
    simp [toList_join, slashed, hslash]
  | true =>
    have hlast : root.toList.getLast? = some '/' := by simpa [endsInSlash] using hslash
    obtain ⟨cs, hcs⟩ := List.getLast?_eq_some_iff.mp hlast
    refine ⟨(split cs).map String.ofList, [""], by simp, ?_, hjoin cs ?_⟩
    · rw [components, hcs, split_append_slash, List.map_append]
      rfl
    · simp [toList_join, slashed, hslash, hcs]

theorem isAbsolute_join {root : String} (hroot : root ≠ "") (name : String) :
    isAbsolute (join root name) = isAbsolute root := by
  obtain ⟨c, cs, hcs⟩ :=
    List.exists_cons_of_ne_nil fun e => hroot (String.toList_eq_nil_iff.mp e)
  simp only [isAbsolute, toList_join, slashed]
  split <;> simp [hcs]

theorem hasNul_join {root name : String} (hroot : hasNul root = false) (hname : IsName name) :
    hasNul (join root name) = false := by
  have hnul := hname.no_nul
  simp only [hasNul, List.contains_eq_mem, decide_eq_false_iff_not] at *
  rw [toList_join, slashed]
  split <;> simp [hroot, hnul]

end Path

namespace FileSystem

/-! ## 2. One more component -/

variable {fs : FileSystem} {place last : List String} {fault f : Option Errno}
  {inside l : Listing}

/-- The directory at `last` holds a directory of that name. -/
theorem follow_name {onLink : String → List String → List String → Except Errno Resolved}
    {name : String} (hname : Path.IsName name) (h : fs.entry? last name = some (.dir f l)) :
    fs.follow onLink [name] last = .ok (.directory (last ++ [name]) f l) := by
  rw [follow_cons_name hname, h]
  simp only [follow, directory?_snoc_iff.mpr h]

/-- A name behind all components, or in the place of empty ones. -/
theorem resolveFrom_name {name : String} (hname : Path.IsName name)
    (hentry : fs.entry? last name = some (.dir f l)) {blanks : List String}
    (hblanks : ∀ b ∈ blanks, b = "") {links : Nat} {cs : List String}
    (h : fs.resolveFrom links (cs ++ blanks) place = .ok (.directory last fault inside)) :
    fs.resolveFrom links (cs ++ [name]) place = .ok (.directory (last ++ [name]) f l) := by
  induction links generalizing cs place with
  | zero =>
    exact follow_append (Q := (· = .ok (.directory (last ++ [name]) f l))) hblanks
      (follow_name hname hentry) (fun _ _ _ h => by cases h) h
  | succ links ih =>
    refine follow_append (Q := (· = .ok (.directory (last ++ [name]) f l))) hblanks
      (follow_name hname hentry) (fun target here rest hrest => ?_) h
    rw [← List.append_assoc] at hrest ⊢
    exact ih hrest

/-! ## 3. Paths -/

theorem textFault_join {root name : String} (h : textFault root = none) (hname : Path.IsName name)
    (hshort : Path.isTooLong (Path.join root name) = false) :
    textFault (Path.join root name) = none := by
  obtain ⟨hne, -, hnul⟩ := textFault_eq_none_iff.mp h
  refine textFault_eq_none_iff.mpr ⟨fun e => ?_, hshort, Path.hasNul_join hnul hname⟩
  have hnil := String.toList_eq_nil_iff.mpr e
  rw [Path.toList_join] at hnil
  exact hname.ne_empty (String.toList_eq_nil_iff.mp (List.append_eq_nil_iff.mp hnil).2)

/-- Where a path leads to a directory, the path of a directory in it leads there, unless it is too
long. -/
theorem resolve_join {root name : String} (hname : Path.IsName name)
    (h : fs.resolve root = .ok (.directory place fault inside))
    (hentry : fs.entry? place name = some (.dir f l))
    (hshort : Path.isTooLong (Path.join root name) = false) :
    fs.resolve (Path.join root name) = .ok (.directory (place ++ [name]) f l) := by
  unfold resolve at h
  cases hfault : textFault root with
  | some e => rw [hfault] at h; cases h
  | none =>
    rw [hfault] at h
    have hne := (textFault_eq_none_iff.mp hfault).1
    rw [resolve, textFault_join hfault hname hshort]
    have hstart : startOf (Path.join root name) fs.workingDirectory =
        startOf root fs.workingDirectory := by
      rw [startOf, startOf, Path.isAbsolute_join hne]
    simp only [hstart] at h ⊢
    obtain ⟨front, blanks, hblanks, hroot, hjoin⟩ := Path.components_join root hname
    rw [hroot] at h
    rw [hjoin]
    exact resolveFrom_name hname hentry hblanks h

theorem resolve_eq_error_of_isTooLong (fs : FileSystem) {path : String}
    (h : Path.isTooLong path = true) :
    ∃ e, fs.resolve path = .error e := by
  unfold resolve
  cases hfault : textFault path with
  | some e => exact ⟨e, rfl⟩
  | none =>
    rw [(textFault_eq_none_iff.mp hfault).2.1] at h
    cases h

end FileSystem

end TidyTree
