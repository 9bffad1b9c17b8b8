/-
TidyTree.Proofs.Json.Grammar — which texts are JSON, and what they say.

`Written` is the grammar: values, the elements of lists and the members
of objects, with blanks wherever they may stand.  It says which value a
text stands for and does not know any reader.  Objects keep their
members in order, with all that have one key.
-/
import TidyTree.Json.Number
import TidyTree.Proofs.Json.Strings

namespace TidyTree.Json

/-! ## 1. Numbers -/

/-- The character is a decimal digit. -/
def IsDigit (c : Char) : Prop := '0' ≤ c ∧ c ≤ '9'

instance (c : Char) : Decidable (IsDigit c) := inferInstanceAs (Decidable ('0' ≤ c ∧ c ≤ '9'))

/-- The digits before the point: a zero alone, or digits that do not begin with one. -/
inductive Whole : List Char → Prop
  | zero : Whole ['0']
  | digits {d : Char} {ds : List Char} :
      IsDigit d → d ≠ '0' → (∀ c ∈ ds, IsDigit c) → Whole (d :: ds)

/-- The fraction of a number, which may be missing. -/
inductive Fraction : List Char → Prop
  | none : Fraction []
  | digits {d : Char} {ds : List Char} :
      IsDigit d → (∀ c ∈ ds, IsDigit c) → Fraction ('.' :: d :: ds)

/-- The exponent of a number, which may be missing. -/
inductive Exponent : List Char → Prop
  | none : Exponent []
  | digits {e d : Char} {sign ds : List Char} :
      e = 'e' ∨ e = 'E' → sign = [] ∨ sign = ['-'] ∨ sign = ['+'] → IsDigit d →
      (∀ c ∈ ds, IsDigit c) → Exponent (e :: (sign ++ d :: ds))

/-- A number without its sign. -/
inductive Unsigned : List Char → Prop
  | parts {whole fraction exponent : List Char} :
      Whole whole → Fraction fraction → Exponent exponent →
      Unsigned (whole ++ (fraction ++ exponent))

/-- A number. -/
inductive Numeral : List Char → Prop
  | positive {cs : List Char} : Unsigned cs → Numeral cs
  | negative {cs : List Char} : Unsigned cs → Numeral ('-' :: cs)

/-! ## 2. Values -/

/-- What a JSON text says.  A number is kept as it is written. -/
inductive Value where
  | null
  | boolean (b : Bool)
  | number (digits : List Char)
  | string (s : String)
  | list (elements : List Value)
  | object (members : List (String × Value))

/-- What a part of a JSON text stands for. -/
inductive Piece where
  /-- A value without blanks around it. -/
  | value (v : Value)
  /-- A value with blanks around it. -/
  | element (v : Value)
  /-- Values with commas between them. -/
  | elements (vs : List Value)
  /-- A value with its key. -/
  | member (m : String × Value)
  /-- Members with commas between them. -/
  | members (ms : List (String × Value))

/-- Only blanks. -/
def Blanks (cs : List Char) : Prop := ∀ c ∈ cs, isBlank c = true

/-- How the parts of a JSON text are written. -/
inductive Written : List Char → Piece → Prop
  | null : Written ['n', 'u', 'l', 'l'] (.value .null)
  | true : Written ['t', 'r', 'u', 'e'] (.value (.boolean true))
  | false : Written ['f', 'a', 'l', 's', 'e'] (.value (.boolean false))
  | number {cs : List Char} : Numeral cs → Written cs (.value (.number cs))
  | string {cs : List Char} {s : String} :
      Spelled cs s.toList → Written ('"' :: (cs ++ ['"'])) (.value (.string s))
  | emptyList {b : List Char} : Blanks b → Written ('[' :: (b ++ [']'])) (.value (.list []))
  | list {cs : List Char} {vs : List Value} :
      Written cs (.elements vs) → Written ('[' :: (cs ++ [']'])) (.value (.list vs))
  | emptyObject {b : List Char} :
      Blanks b → Written ('\x7b' :: (b ++ ['\x7d'])) (.value (.object []))
  | object {cs : List Char} {ms : List (String × Value)} :
      Written cs (.members ms) → Written ('\x7b' :: (cs ++ ['\x7d'])) (.value (.object ms))
  | element {a cs b : List Char} {v : Value} :
      Blanks a → Written cs (.value v) → Blanks b → Written (a ++ (cs ++ b)) (.element v)
  | lastElement {cs : List Char} {v : Value} :
      Written cs (.element v) → Written cs (.elements [v])
  | moreElements {cs ds : List Char} {v : Value} {vs : List Value} :
      Written cs (.element v) → Written ds (.elements vs) →
      Written (cs ++ ',' :: ds) (.elements (v :: vs))
  | member {a ks b cs : List Char} {key : String} {v : Value} :
      Blanks a → Spelled ks key.toList → Blanks b → Written cs (.element v) →
      Written (a ++ '"' :: (ks ++ '"' :: (b ++ ':' :: cs))) (.member (key, v))
  | lastMember {cs : List Char} {m : String × Value} :
      Written cs (.member m) → Written cs (.members [m])
  | moreMembers {cs ds : List Char} {m : String × Value} {ms : List (String × Value)} :
      Written cs (.member m) → Written ds (.members ms) →
      Written (cs ++ ',' :: ds) (.members (m :: ms))

/-! ## 3. Where a part begins and ends -/

theorem blanks_nil : Blanks [] := nofun

theorem blanks_append {a b : List Char} (ha : Blanks a) (hb : Blanks b) : Blanks (a ++ b) :=
  fun c hc => (List.mem_append.mp hc).elim (ha c) (hb c)

theorem Written.toElement {cs : List Char} {v : Value} (h : Written cs (.value v)) :
    Written cs (.element v) := by
  have hplain := Written.element blanks_nil h blanks_nil
  rwa [List.append_nil] at hplain

/-- More blanks around an element change nothing. -/
theorem Written.blanks {a cs b : List Char} {v : Value} (h : Written cs (.element v))
    (ha : Blanks a) (hb : Blanks b) : Written (a ++ (cs ++ b)) (.element v) := by
  cases h with
  | element ha' hvalue hb' =>
    have hall := Written.element (blanks_append ha ha') hvalue (blanks_append hb' hb)
    simpa only [List.append_assoc] using hall

theorem skipBlanks_append {b : List Char} (hb : Blanks b) (cs : List Char) :
    skipBlanks (b ++ cs) = skipBlanks cs := by
  induction b with
  | nil => rfl
  | cons c b ih =>
    rw [List.cons_append, skipBlanks, if_pos (hb c List.mem_cons_self)]
    exact ih fun d hd => hb d (List.mem_cons_of_mem c hd)

theorem fronts_iff {cs rest : List Char} {c : Char} :
    Fronts cs c rest ↔ skipBlanks cs = c :: rest := by
  unfold Fronts front
  constructor
  · rintro ⟨h, heq⟩
    split at heq
    · cases heq
    · next hskip => cases heq; exact hskip
  · intro h
    have hless : rest.length < cs.length := by
      have hle := length_skipBlanks_le cs
      rw [h] at hle
      exact hle
    refine ⟨hless, ?_⟩
    split
    · next hskip => rw [h] at hskip; cases hskip
    · next r hskip => rw [h] at hskip; cases hskip; rfl

/-- Blanks in front change nothing about the first character behind them. -/
theorem fronts_blanks {b cs rest : List Char} {c : Char} (hb : Blanks b) :
    Fronts (b ++ cs) c rest ↔ Fronts cs c rest := by
  rw [fronts_iff, fronts_iff, skipBlanks_append hb]

/-- The first character behind blanks. -/
theorem fronts_blanks_cons {b : List Char} {c : Char} (hb : Blanks b) (hc : isBlank c = false)
    (rest : List Char) : Fronts (b ++ c :: rest) c rest :=
  (fronts_blanks hb).mpr (fronts_cons hc rest)

theorem front_blanks {b : List Char} (hb : Blanks b) : front b = .nothing := by
  have hskip : skipBlanks b = [] := by
    have h := skipBlanks_append hb []
    rwa [List.append_nil] at h
  unfold front
  split
  · rfl
  · next h => rw [hskip] at h; cases h

/-- What may stand behind a value: nothing, a blank, a comma or the end of a list or an object. -/
def Stops (rest : List Char) : Prop :=
  ∀ c ∈ rest.head?, isBlank c = true ∨ c = ',' ∨ c = ']' ∨ c = '\x7d'

theorem stops_cons {c : Char} (h : c = ',' ∨ c = ']' ∨ c = '\x7d') (rest : List Char) :
    Stops (c :: rest) := by
  intro d hd
  cases hd
  exact Or.inr h

theorem stops_blanks {b rest : List Char} (hb : Blanks b) (h : Stops rest) : Stops (b ++ rest) := by
  cases b with
  | nil => exact h
  | cons c b =>
    intro d hd
    cases hd
    exact Or.inl (hb c List.mem_cons_self)

theorem isBlank_iff {c : Char} : isBlank c = true ↔ c = ' ' ∨ c = '\n' ∨ c = '\t' ∨ c = '\r' := by
  simp [isBlank, or_assoc]

theorem isBlank_of_isDigit {c : Char} (h : IsDigit c) : isBlank c = false := by
  rw [Bool.eq_false_iff]
  intro hc
  rcases isBlank_iff.mp hc with rfl | rfl | rfl | rfl <;> exact absurd h (by decide)

/-- The character with which a value of that kind begins. -/
def Value.Begins : Value → Char → Prop
  | .null, c => c = 'n'
  | .boolean b, c => c = if b then 't' else 'f'
  | .number _, c => c = '-' ∨ IsDigit c
  | .string _, c => c = '"'
  | .list _, c => c = '['
  | .object _, c => c = '\x7b'

theorem Unsigned.exists_cons {cs : List Char} (h : Unsigned cs) :
    ∃ c r, cs = c :: r ∧ IsDigit c := by
  cases h with
  | parts hwhole _ _ =>
    cases hwhole with
    | zero => exact ⟨_, _, rfl, by decide⟩
    | digits hd _ _ => exact ⟨_, _, rfl, hd⟩

theorem Written.exists_cons {cs : List Char} {v : Value} (h : Written cs (.value v)) :
    ∃ c r, cs = c :: r ∧ v.Begins c := by
  cases h with
  | null | true | false | string | emptyList | list | emptyObject | object =>
    exact ⟨_, _, rfl, rfl⟩
  | number hnumber =>
    cases hnumber with
    | positive hunsigned =>
      obtain ⟨c, r, rfl, hc⟩ := hunsigned.exists_cons
      exact ⟨c, r, rfl, Or.inr hc⟩
    | negative => exact ⟨_, _, rfl, Or.inl rfl⟩

/-- A value begins with no blank, and with nothing that ends a list or an object. -/
theorem Value.Begins.ne {v : Value} {c : Char} (h : v.Begins c) :
    isBlank c = false ∧ c ≠ ']' ∧ c ≠ '\x7d' := by
  cases v with
  | null | string | list | object => cases h; decide
  | boolean b => cases b <;> cases h <;> decide
  | number =>
    rcases h with rfl | h
    · decide
    · refine ⟨isBlank_of_isDigit h, ?_, ?_⟩ <;> rintro rfl <;> exact absurd h (by decide)

theorem Written.fronts_element {cs : List Char} {v : Value} (h : Written cs (.element v))
    (rest : List Char) : ∃ c r, Fronts (cs ++ rest) c r ∧ v.Begins c := by
  cases h with
  | element ha hvalue _ =>
    obtain ⟨c, r, rfl, hc⟩ := hvalue.exists_cons
    rw [List.append_assoc]
    exact ⟨c, _, fronts_blanks_cons ha hc.ne.1 _, hc⟩

theorem Written.fronts_elements {cs : List Char} {vs : List Value} (h : Written cs (.elements vs))
    (rest : List Char) : ∃ c r, Fronts (cs ++ rest) c r ∧ c ≠ ']' := by
  cases h with
  | lastElement helement =>
    obtain ⟨c, r, hfront, hc⟩ := helement.fronts_element rest
    exact ⟨c, r, hfront, hc.ne.2.1⟩
  | @moreElements cs ds v vs helement _ =>
    obtain ⟨c, r, hfront, hc⟩ := helement.fronts_element (',' :: (ds ++ rest))
    rw [List.append_assoc, List.cons_append]
    exact ⟨c, r, hfront, hc.ne.2.1⟩

theorem Written.fronts_member {cs : List Char} {m : String × Value} (h : Written cs (.member m))
    (rest : List Char) : ∃ r, Fronts (cs ++ rest) '"' r := by
  cases h with
  | member ha _ _ _ =>
    rw [List.append_assoc]
    exact ⟨_, fronts_blanks_cons ha rfl _⟩

theorem Written.fronts_members {cs : List Char} {ms : List (String × Value)}
    (h : Written cs (.members ms)) (rest : List Char) : ∃ r, Fronts (cs ++ rest) '"' r := by
  cases h with
  | lastMember hmember => exact hmember.fronts_member rest
  | @moreMembers cs ds m ms hmember _ =>
    rw [List.append_assoc]
    exact hmember.fronts_member _

/-! ## 4. Lists and objects by their first part -/

/-- What stands behind the first of several parts: nothing, or a comma and the others. -/
inductive Behind {α : Type} (piece : List α → Piece) : List Char → List α → Prop
  | nothing : Behind piece [] []
  | comma {cs : List Char} {others : List α} :
      Written cs (piece others) → Behind piece (',' :: cs) others

/-- Elements begin with the first of them. -/
theorem Written.elements_cons {cs : List Char} {vs : List Value} (h : Written cs (.elements vs)) :
    ∃ v others a ds b more, vs = v :: others ∧
      (∀ rest, cs ++ rest = a ++ (ds ++ (b ++ (more ++ rest)))) ∧ Blanks a ∧
      Written ds (.value v) ∧ Blanks b ∧ Behind .elements more others := by
  cases h with
  | lastElement helement =>
    cases helement with
    | element ha hvalue hb =>
      exact ⟨_, [], _, _, _, [], rfl, by simp, ha, hvalue, hb, .nothing⟩
  | moreElements helement hothers =>
    cases helement with
    | element ha hvalue hb =>
      exact ⟨_, _, _, _, _, _, rfl, by simp, ha, hvalue, hb, .comma hothers⟩

/-- Members begin with the key, the colon and the value of the first of them. -/
theorem Written.members_cons {cs : List Char} {ms : List (String × Value)}
    (h : Written cs (.members ms)) :
    ∃ key v others a ks b c ds d more, ms = (key, v) :: others ∧
      (∀ rest, cs ++ rest =
        a ++ '"' :: (ks ++ '"' :: (b ++ ':' :: (c ++ (ds ++ (d ++ (more ++ rest))))))) ∧
      Blanks a ∧ Spelled ks key.toList ∧ Blanks b ∧ Blanks c ∧ Written ds (.value v) ∧ Blanks d ∧
      Behind .members more others := by
  cases h with
  | lastMember hmember =>
    cases hmember with
    | member ha hkey hb helement =>
      cases helement with
      | element hc hvalue hd =>
        exact ⟨_, _, [], _, _, _, _, _, _, [], rfl, by simp, ha, hkey, hb, hc, hvalue, hd, .nothing⟩
  | moreMembers hmember hothers =>
    cases hmember with
    | member ha hkey hb helement =>
      cases helement with
      | element hc hvalue hd =>
        exact ⟨_, _, _, _, _, _, _, _, _, _, rfl, by simp, ha, hkey, hb, hc, hvalue, hd,
          .comma hothers⟩

end TidyTree.Json
