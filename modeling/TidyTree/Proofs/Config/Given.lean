/-
TidyTree.Proofs.Config.Given — which configuration the members of an
object give.

Members are added to a partial configuration one after the other
(`Partial.add?`).  What comes of all of them can be said of each field
alone (`foldlM_add?_eq_some_iff`): a field takes the value of the one
member that has its key, and stays as it was if there is none; two
members, or a value that the field cannot hold, give nothing.  So the
order of the members and members with other keys never matter.
-/
import TidyTree.Proofs.Config.RoundTrip
import TidyTree.Proofs.Json.Grammar

namespace TidyTree

open Json

/-! ## 1. Values for fields -/

namespace Json

/-- The string that a value is, if it is one. -/
def Value.string? : Value → Option String
  | .string s => some s
  | _ => none

/-- The strings that a value lists, if it is a list of nothing else. -/
def Value.strings? : Value → Option (List String)
  | .list vs => vs.mapM Value.string?
  | _ => none

theorem Value.string?_eq_some_iff {v : Value} {s : String} :
    v.string? = some s ↔ v = .string s := by
  cases v <;> simp [Value.string?]

theorem mapM_string?_eq_some_iff {vs : List Value} {ss : List String} :
    vs.mapM Value.string? = some ss ↔ vs = ss.map Value.string := by
  induction vs generalizing ss with
  | nil => cases ss <;> simp
  | cons v vs ih =>
    cases ss with
    | nil => simp [List.mapM_cons, Option.bind_eq_some_iff]
    | cons s ss => simp [List.mapM_cons, Option.bind_eq_some_iff, Value.string?_eq_some_iff, ih]

/-- The values with that key, in the order of the members. -/
def valuesAt (key : String) (ms : List (String × Value)) : List Value :=
  (ms.filter fun m => m.1 = key).map (·.2)

theorem valuesAt_cons (key : String) (m : String × Value) (ms : List (String × Value)) :
    valuesAt key (m :: ms) = if m.1 = key then m.2 :: valuesAt key ms else valuesAt key ms := by
  simp only [valuesAt, List.filter_cons, decide_eq_true_eq]
  split <;> rfl

end Json

namespace Config

/-- The JSON value that stands for a value of the field. -/
def Field.json : (f : Field) → f.Value → Json.Value
  | .suffixes, ss => .list (ss.map Json.Value.string)
  | .rootDir, s | .program, s | .inPlaceFlag, s => .string s

/-- What the value gives for the field, if the field can hold it. -/
def Field.given? : (f : Field) → Json.Value → Option f.Value
  | .rootDir, v | .program, v | .inPlaceFlag, v => v.string?
  | .suffixes, v => v.strings?

theorem Field.given?_eq_some_iff {f : Field} {v : Json.Value} {value : f.Value} :
    f.given? v = some value ↔ v = f.json value := by
  cases f with
  | rootDir | program | inPlaceFlag => exact Value.string?_eq_some_iff
  | suffixes =>
    cases v with
    | list vs =>
      simp only [Field.given?, Value.strings?, Field.json, Value.list.injEq]
      exact mapM_string?_eq_some_iff
    | _ => simp [Field.given?, Value.strings?, Field.json]

theorem Field.key_injective {f g : Field} (h : f.key = g.key) : f = g := by
  have hsame := congrArg Field.ofKey? h
  rw [ofKey?_key, ofKey?_key] at hsame
  exact Option.some.inj hsame

theorem Field.ofKey?_eq_some_iff {key : String} {f : Field} :
    Field.ofKey? key = some f ↔ key = f.key := by
  constructor
  · intro h
    have hkey := List.find?_some h
    exact (beq_iff_eq.mp hkey).symm
  · rintro rfl
    exact ofKey?_key f

theorem Field.ofKey?_eq_none_iff {key : String} :
    Field.ofKey? key = none ↔ ∀ f : Field, key ≠ f.key := by
  rw [Option.eq_none_iff_forall_ne_some]
  simp only [ne_eq, ofKey?_eq_some_iff]

namespace Partial

/-- The value of a field, if it is given. -/
def get? (p : Partial) : (f : Field) → Option f.Value
  | .rootDir => p.rootDir
  | .program => p.program
  | .inPlaceFlag => p.inPlaceFlag
  | .suffixes => p.suffixes

/-- The partial configuration with these values. -/
def ofGet (given : (f : Field) → Option f.Value) : Partial :=
  ⟨given .rootDir, given .program, given .inPlaceFlag, given .suffixes⟩

/-- The partial configuration with one more member.  Nothing comes of a field given twice and of a
value that the field cannot hold. -/
def add? (p : Partial) (m : String × Json.Value) : Option Partial :=
  match Field.ofKey? m.1 with
  | none => some p
  | some f => if p.has f then none else (f.given? m.2).map (p.set f)

theorem get?_ofGet (given : (f : Field) → Option f.Value) (f : Field) :
    (ofGet given).get? f = given f := by
  cases f <;> rfl

theorem has_eq (p : Partial) (f : Field) : p.has f = (p.get? f).isSome := by
  cases f <;> rfl

theorem get?_set_self (p : Partial) (f : Field) (v : f.Value) : (p.set f v).get? f = some v := by
  cases f <;> rfl

theorem get?_set_of_ne {f g : Field} (h : g ≠ f) (p : Partial) (v : f.Value) :
    (p.set f v).get? g = p.get? g := by
  cases f <;> cases g <;> first | rfl | exact absurd rfl h

theorem get?_blank (f : Field) : blank.get? f = none := by
  cases f <;> rfl

theorem eq_of_get? {p q : Partial} (h : ∀ f, p.get? f = q.get? f) : p = q := by
  cases p
  cases q
  have hroot := h .rootDir
  have hprogram := h .program
  have hflag := h .inPlaceFlag
  have hsuffixes := h .suffixes
  simp only [get?] at *
  rw [hroot, hprogram, hflag, hsuffixes]

/-- Each field can be chosen alone. -/
theorem exists_iff {P : (f : Field) → Option f.Value → Prop} :
    (∃ p : Partial, ∀ f, P f (p.get? f)) ↔ ∀ f, ∃ given, P f given := by
  constructor
  · rintro ⟨p, hp⟩ f
    exact ⟨p.get? f, hp f⟩
  · intro h
    choose given hgiven using h
    refine ⟨.ofGet given, fun f => ?_⟩
    rw [get?_ofGet]
    exact hgiven f

theorem value_fill (p : Partial) (f : Field) :
    p.fill.value f = (p.get? f).getD (Config.default.value f) := by
  cases f <;> rfl

end Partial

/-! ## 2. All members -/

/-- What the members do to one field: they leave it as it was, or one of them gives it its value. -/
def Settles (f : Field) (ms : List (String × Json.Value)) (before after : Option f.Value) : Prop :=
  (valuesAt f.key ms = [] ∧ after = before) ∨
    ∃ v value, valuesAt f.key ms = [v] ∧ before = none ∧ f.given? v = some value ∧
      after = some value

theorem settles_nil {f : Field} {before after : Option f.Value} :
    Settles f [] before after ↔ after = before := by
  simp [Settles, valuesAt]

theorem settles_cons_of_ne {f : Field} {m : String × Json.Value} {ms : List (String × Json.Value)}
    {before after : Option f.Value} (h : m.1 ≠ f.key) :
    Settles f (m :: ms) before after ↔ Settles f ms before after := by
  simp only [Settles, valuesAt_cons, if_neg h]

theorem settles_cons_self {f : Field} {m : String × Json.Value} {ms : List (String × Json.Value)}
    {before after : Option f.Value} (h : m.1 = f.key) :
    Settles f (m :: ms) before after ↔
      before = none ∧ ∃ value, f.given? m.2 = some value ∧ Settles f ms (some value) after := by
  simp only [Settles, valuesAt_cons, if_pos h]
  constructor
  · rintro (⟨hnil, -⟩ | ⟨v, value, hone, hbefore, hgiven, hafter⟩)
    · cases hnil
    · obtain ⟨rfl, hrest⟩ := List.cons.inj hone
      exact ⟨hbefore, value, hgiven, Or.inl ⟨hrest, hafter⟩⟩
  · rintro ⟨hbefore, value, hgiven, ⟨hrest, hafter⟩ | ⟨v, other, -, hnone, -⟩⟩
    · exact Or.inr ⟨m.2, value, by rw [hrest], hbefore, hgiven, hafter⟩
    · cases hnone

/-- What several members do to a field, the first does and then the others. -/
theorem settles_cons_iff {f : Field} {m : String × Json.Value} {ms : List (String × Json.Value)}
    {before after : Option f.Value} :
    Settles f (m :: ms) before after ↔
      ∃ between, Settles f [m] before between ∧ Settles f ms between after := by
  by_cases h : m.1 = f.key
  · simp only [settles_cons_self h, settles_nil]
    constructor
    · rintro ⟨hbefore, value, hgiven, hrest⟩
      exact ⟨some value, ⟨hbefore, value, hgiven, rfl⟩, hrest⟩
    · rintro ⟨_, ⟨hbefore, value, hgiven, rfl⟩, hrest⟩
      exact ⟨hbefore, value, hgiven, hrest⟩
  · simp only [settles_cons_of_ne h, settles_nil, exists_eq_left]

/-- A member is added exactly if it settles every field: its own, and the others by leaving them as
they are. -/
theorem add?_eq_some_iff {m : String × Json.Value} {p q : Partial} :
    p.add? m = some q ↔ ∀ f, Settles f [m] (p.get? f) (q.get? f) := by
  cases hkey : Field.ofKey? m.1 with
  | none =>
    have hne := Field.ofKey?_eq_none_iff.mp hkey
    simp only [Partial.add?, hkey, settles_cons_of_ne (hne _), settles_nil, Option.some.injEq]
    exact ⟨fun h f => by rw [h], fun h => (Partial.eq_of_get? h).symm⟩
  | some g =>
    have hself : m.1 = g.key := Field.ofKey?_eq_some_iff.mp hkey
    have hne : ∀ {f}, f ≠ g → m.1 ≠ f.key := fun hfg hm =>
      hfg (Field.key_injective (hm.symm.trans hself))
    have hadd : p.add? m = if p.has g then none else (g.given? m.2).map (p.set g) := by
      simp only [Partial.add?, hkey]
    rw [hadd, Partial.has_eq]
    constructor
    · intro h f
      split at h
      · cases h
      next hopen =>
      obtain ⟨value, hgiven, rfl⟩ := Option.map_eq_some_iff.mp h
      by_cases hfg : f = g
      · subst hfg
        rw [Partial.get?_set_self, settles_cons_self hself]
        exact ⟨Option.not_isSome_iff_eq_none.mp hopen, value, hgiven, settles_nil.mpr rfl⟩
      · rw [Partial.get?_set_of_ne hfg, settles_cons_of_ne (hne hfg)]
        exact settles_nil.mpr rfl
    · intro h
      obtain ⟨hopen, value, hgiven, hvalue⟩ := (settles_cons_self hself).mp (h g)
      have hq : q = p.set g value := Partial.eq_of_get? fun f => by
        by_cases hfg : f = g
        · subst hfg
          rw [Partial.get?_set_self, settles_nil.mp hvalue]
        · rw [Partial.get?_set_of_ne hfg]
          exact settles_nil.mp ((settles_cons_of_ne (hne hfg)).mp (h f))
      rw [hopen, hgiven, hq]
      rfl

/-- The members give a partial configuration exactly if they settle every field. -/
theorem foldlM_add?_eq_some_iff {ms : List (String × Json.Value)} {p q : Partial} :
    ms.foldlM Partial.add? p = some q ↔ ∀ f, Settles f ms (p.get? f) (q.get? f) := by
  induction ms generalizing p with
  | nil =>
    simp only [List.foldlM_nil, settles_nil]
    constructor
    · rintro ⟨⟩ f
      rfl
    · intro h
      rw [Partial.eq_of_get? h]
      rfl
  | cons m ms ih =>
    calc (m :: ms).foldlM Partial.add? p = some q
      _ ↔ ∃ r, p.add? m = some r ∧ ms.foldlM Partial.add? r = some q := by
          rw [List.foldlM_cons, Option.bind_eq_bind, Option.bind_eq_some_iff]
      _ ↔ ∃ r : Partial, ∀ f,
            Settles f [m] (p.get? f) (r.get? f) ∧ Settles f ms (r.get? f) (q.get? f) := by
          simp only [add?_eq_some_iff, ih, forall_and]
      _ ↔ ∀ f, ∃ between,
            Settles f [m] (p.get? f) between ∧ Settles f ms between (q.get? f) :=
          Partial.exists_iff (P := fun f between =>
            Settles f [m] (p.get? f) between ∧ Settles f ms between (q.get? f))
      _ ↔ ∀ f, Settles f (m :: ms) (p.get? f) (q.get? f) :=
          forall_congr' fun _ => settles_cons_iff.symm

/-! ## 3. From nothing given -/

/-- The members have at most one value for the field, and it is one that the field can hold. -/
def Fits (ms : List (String × Json.Value)) (f : Field) : Prop :=
  (valuesAt f.key ms).length ≤ 1 ∧ ∀ v ∈ valuesAt f.key ms, ∃ value, v = f.json value

/-- The members have at most one value for the field, and the configuration has that value, or the
default if there is none. -/
def Agrees (ms : List (String × Json.Value)) (c : Config) (f : Field) : Prop :=
  (valuesAt f.key ms).length ≤ 1 ∧ (∀ v ∈ valuesAt f.key ms, v = f.json (c.value f)) ∧
    (valuesAt f.key ms = [] → c.value f = Config.default.value f)

theorem fits_iff_settles {ms : List (String × Json.Value)} {f : Field} :
    Fits ms f ↔ ∃ given, Settles f ms none given := by
  unfold Fits Settles
  match valuesAt f.key ms with
  | [] => simp
  | [v] => simp [Field.given?_eq_some_iff]
  | v :: w :: vs => simp

theorem agrees_iff_settles {ms : List (String × Json.Value)} {c : Config} {f : Field} :
    Agrees ms c f ↔
      ∃ given, Settles f ms none given ∧ c.value f = given.getD (Config.default.value f) := by
  unfold Agrees Settles
  match valuesAt f.key ms with
  | [] => simp
  | [v] => simp [Field.given?_eq_some_iff]
  | v :: w :: vs => simp

theorem eq_of_value {c d : Config} (h : ∀ f, c.value f = d.value f) : c = d := by
  cases c
  cases d
  have hroot := h .rootDir
  have hprogram := h .program
  have hflag := h .inPlaceFlag
  have hsuffixes := h .suffixes
  simp only [value] at *
  rw [hroot, hprogram, hflag, hsuffixes]

/-- Only one configuration comes of filling what is given. -/
theorem fill_eq_iff {p : Partial} {c : Config} :
    p.fill = c ↔ ∀ f, c.value f = (p.get? f).getD (Config.default.value f) := by
  constructor
  · rintro rfl f
    exact p.value_fill f
  · intro h
    exact eq_of_value fun f => (p.value_fill f).trans (h f).symm

/-- Something comes of the members if they fit every field. -/
theorem exists_foldlM_add?_iff {ms : List (String × Json.Value)} :
    (∃ p, ms.foldlM Partial.add? .blank = some p) ↔ ∀ f, Fits ms f := by
  simp only [foldlM_add?_eq_some_iff, Partial.get?_blank, fits_iff_settles]
  exact Partial.exists_iff

/-- A configuration comes of the members if it agrees with them on every field. -/
theorem exists_fill_iff {ms : List (String × Json.Value)} {c : Config} :
    (∃ p, ms.foldlM Partial.add? .blank = some p ∧ p.fill = c) ↔ ∀ f, Agrees ms c f := by
  simp only [foldlM_add?_eq_some_iff, Partial.get?_blank, agrees_iff_settles, fill_eq_iff,
    ← forall_and]
  exact Partial.exists_iff (P := fun f given =>
    Settles f ms none given ∧ c.value f = given.getD (Config.default.value f))

end Config

end TidyTree
