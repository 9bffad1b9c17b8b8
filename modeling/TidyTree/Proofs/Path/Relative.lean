/-
TidyTree.Proofs.Path.Relative — paths below a root.

`extend root names` is the path that a chain of names leads to from
`root`, and `below root path` reads the chain back from the path.
`below_extend` says that nothing is lost, whatever the root looks like:
names are not empty and hold no slash, so the slashes of the path after
the root are exactly the ones that were put between the names.
-/
import Mathlib.Data.List.Basic
import TidyTree.Path

namespace TidyTree.Path

/-! ## 1. Names -/

/-- What the system takes as the name of an entry. -/
structure IsName (name : String) : Prop where
  ne_empty : name ≠ ""
  ne_here : name ≠ "."
  ne_parent : name ≠ ".."
  no_slash : '/' ∉ name.toList
  no_nul : hasNul name = false
  not_too_long : isNameTooLong name = false

instance (name : String) : Decidable (IsName name) :=
  decidable_of_iff
    (name ≠ "" ∧ name ≠ "." ∧ name ≠ ".." ∧ '/' ∉ name.toList ∧ hasNul name = false ∧
      isNameTooLong name = false)
    ⟨fun ⟨a, b, c, d, e, f⟩ => ⟨a, b, c, d, e, f⟩, fun ⟨a, b, c, d, e, f⟩ => ⟨a, b, c, d, e, f⟩⟩

/-! ## 2. From a root along a chain of names -/

/-- The path that a chain of names leads to from `root`. -/
def extend (root : String) (names : List String) : String := names.foldl join root

/-- The characters of a root with the slash that comes before a name below it. -/
def slashed (root : String) : List Char :=
  if endsInSlash root then root.toList else root.toList ++ ['/']

/-- A chain of names with single slashes between them. -/
def chain : List String → List Char
  | [] => []
  | [name] => name.toList
  | name :: next :: names => name.toList ++ '/' :: chain (next :: names)

/-- The chain of names that leads from `root` to a path below it. -/
def below (root path : String) : List String :=
  (components (String.ofList (path.toList.drop (slashed root).length))).filter (· ≠ "")

@[simp] theorem extend_nil (root : String) : extend root [] = root := rfl

@[simp] theorem extend_cons (root name : String) (names : List String) :
    extend root (name :: names) = extend (join root name) names := rfl

theorem extend_append (root : String) (names more : List String) :
    extend root (names ++ more) = extend (extend root names) more := List.foldl_append

theorem toList_join (root name : String) :
    (join root name).toList = slashed root ++ name.toList := by
  unfold join slashed
  split
  · simp
  · simp [show "/".toList = ['/'] from rfl]

/-- A path that ends in a name does not end in a slash. -/
theorem endsInSlash_join {root name : String} (h : IsName name) :
    endsInSlash (join root name) = false := by
  have hne : name.toList ≠ [] := fun e => h.ne_empty (String.toList_eq_nil_iff.mp e)
  have hlast : (join root name).toList.getLast? = some (name.toList.getLast hne) := by
    rw [toList_join, List.getLast?_append_of_ne_nil _ hne, List.getLast?_eq_some_getLast hne]
  simp only [endsInSlash, hlast, Option.some.injEq, decide_eq_false_iff_not]
  intro e
  exact h.no_slash (e ▸ List.getLast_mem hne)

theorem slashed_join {root name : String} (h : IsName name) :
    slashed (join root name) = slashed root ++ (name.toList ++ ['/']) := by
  rw [slashed, endsInSlash_join h, toList_join]
  simp

/-- A path below a root is the root with a slash and the chain of names. -/
theorem toList_extend {root : String} {names : List String} (hne : names ≠ [])
    (h : ∀ n ∈ names, IsName n) :
    (extend root names).toList = slashed root ++ chain names := by
  induction names generalizing root with
  | nil => exact absurd rfl hne
  | cons name names ih =>
    cases names with
    | nil => exact toList_join root name
    | cons next names =>
      rw [extend_cons, ih (by simp) (fun n hn => h n (by simp [hn])),
        slashed_join (h name (by simp))]
      simp [chain]

/-! ## 3. Reading the names back -/

theorem split_ne_nil (cs : List Char) : split cs ≠ [] := by
  cases cs with
  | nil => simp [split]
  | cons c cs =>
    rw [split]
    split
    · simp
    · split <;> simp

/-- The components before and after a slash. -/
theorem split_append_slash (p rest : List Char) :
    split (p ++ '/' :: rest) = split p ++ split rest := by
  induction p with
  | nil => simp [split]
  | cons c cs ih =>
    by_cases e : c = '/'
    · simp [split, e, ih]
    · obtain ⟨part, parts, h⟩ := List.exists_cons_of_ne_nil (split_ne_nil cs)
      simp [split, e, ih, h]

theorem split_of_no_slash {p : List Char} (hp : '/' ∉ p) : split p = [p] := by
  induction p with
  | nil => rfl
  | cons c cs ih =>
    simp only [List.mem_cons, not_or] at hp
    simp [split, Ne.symm hp.1, ih hp.2]

theorem split_chain {names : List String} (hne : names ≠ []) (h : ∀ n ∈ names, IsName n) :
    split (chain names) = names.map String.toList := by
  induction names with
  | nil => exact absurd rfl hne
  | cons name names ih =>
    have hname := (h name (by simp)).no_slash
    cases names with
    | nil => simp [chain, split_of_no_slash hname]
    | cons next names =>
      rw [chain, split_append_slash, split_of_no_slash hname,
        ih (by simp) (fun n hn => h n (by simp [hn]))]
      rfl

/-- The chain of names is read back from the path that it leads to. -/
theorem below_extend {root : String} {names : List String} (h : ∀ n ∈ names, IsName n) :
    below root (extend root names) = names := by
  by_cases hne : names = []
  · subst hne
    have hdrop : root.toList.drop (slashed root).length = [] := by
      apply List.drop_eq_nil_of_le
      unfold slashed
      split <;> simp
    rw [extend_nil, below, hdrop]
    rfl
  · have hparts : components (String.ofList (chain names)) = names := by
      rw [components, String.toList_ofList, split_chain hne h, List.map_map]
      simp [Function.comp_def]
    rw [below, toList_extend hne h, List.drop_left, hparts, List.filter_eq_self]
    intro n hn
    simpa using (h n hn).ne_empty

/-! ## 4. Below a path -/

/-- The path lies below `dir`: it goes on behind it with a slash. -/
def IsBelow (dir path : String) : Prop := ∃ rest, path = dir ++ "/" ++ rest

theorem endsInSlash_extend {root : String} {names : List String} (hne : names ≠ [])
    (h : ∀ n ∈ names, IsName n) : endsInSlash (extend root names) = false := by
  rcases List.eq_nil_or_concat names with rfl | ⟨front, name, rfl⟩
  · exact absurd rfl hne
  · rw [List.concat_eq_append, extend_append]
    exact endsInSlash_join (h name (by simp))

/-- The paths below a path that a chain of names leads to are those to which longer chains lead. -/
theorem isBelow_extend_iff {root : String} {dirs names : List String} (hne : dirs ≠ [])
    (hdirs : ∀ n ∈ dirs, IsName n) (hnames : ∀ n ∈ names, IsName n) :
    IsBelow (extend root dirs) (extend root names) ↔ ∃ more, more ≠ [] ∧ names = dirs ++ more := by
  constructor
  · rintro ⟨rest, hpath⟩
    have hchars : (extend root names).toList =
        slashed root ++ (chain dirs ++ '/' :: rest.toList) := by
      rw [hpath, String.toList_append, String.toList_append, toList_extend hne hdirs]
      simp
    by_cases hnil : names = []
    · have hlength := congrArg List.length hchars
      rw [hnil, extend_nil, slashed] at hlength
      split at hlength <;> simp at hlength
    · rw [toList_extend hnil hnames, List.append_cancel_left_eq] at hchars
      have hsplit := congrArg split hchars
      rw [split_append_slash, split_chain hnil hnames, split_chain hne hdirs] at hsplit
      obtain ⟨front, more, rfl, hfront, hmore⟩ := List.map_eq_append_iff.mp hsplit
      have hinjective : Function.Injective String.toList := fun _ _ h => String.toList_inj.mp h
      refine ⟨more, ?_, by rw [List.map_injective_iff.mpr hinjective hfront]⟩
      rintro rfl
      exact split_ne_nil _ hmore.symm
  · rintro ⟨more, hmore, rfl⟩
    refine ⟨String.ofList (chain more), String.toList_inj.mp ?_⟩
    rw [extend_append, toList_extend hmore fun n hn => hnames n (List.mem_append_right _ hn),
      slashed, endsInSlash_extend hne hdirs]
    simp

end TidyTree.Path
