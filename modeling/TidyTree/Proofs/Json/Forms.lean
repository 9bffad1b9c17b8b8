/-
TidyTree.Proofs.Json.Forms — which texts are JSON, whatever their
strings say.

`Written` says which value a text stands for, and a string stands for
one only if it is text: of a surrogate pair both halves have to come.
JSON itself knows no pairs.  A string is a row of letters, and a letter
may be half of a pair of which the other half is missing.  `Formed` is
the grammar with such strings.  It says nothing about values, so that an
element of a list is known by its own text.

The reader takes a string that is text, and refuses any other whatever
stands behind it (`Lettered.legible`).
-/
import TidyTree.Proofs.Json.Grammar

namespace TidyTree.Json

/-! ## 1. Strings -/

/-- The characters that may stand between quotes for one letter. -/
inductive Letter : List Char → Prop
  | plain {c : Char} : c ≠ '"' → c ≠ '\\' → 32 ≤ c.toNat → Letter [c]
  | short {l c : Char} : shortEscape? l = some c → Letter ['\\', l]
  | code {q : List Char} {n : Nat} : Quad q n → Letter ('\\' :: 'u' :: q)

/-- The characters that may stand between quotes. -/
inductive Lettered : List Char → Prop
  | nil : Lettered []
  | cons {part cs : List Char} : Letter part → Lettered cs → Lettered (part ++ cs)

/-- The characters spell a string, or the reader refuses them whatever stands behind the quote. -/
def Legible (cs : List Char) : Prop :=
  (∃ s, Spelled cs s) ∨ ∀ rest, ∃ e, readChars (cs ++ '"' :: rest) = .error e

variable {part cs q r : List Char} {n : Nat}

theorem fails_chars_cons {c : Char} (h : Spells part c) (hcs : ∃ e, readChars cs = .error e) :
    ∃ e, readChars (part ++ cs) = .error e := by
  obtain ⟨e, hcs⟩ := hcs
  cases h with
  | plain hquote hback hcontrol =>
    rw [List.singleton_append, readChars]
    simp only [hquote, hback, Nat.not_lt.mpr hcontrol, if_false, hcs]
    exact ⟨e, rfl⟩
  | escaped he =>
    obtain ⟨_, hescape⟩ := reads_escape he cs
    rw [List.cons_append, readChars]
    simp only [hescape, hcs]
    exact ⟨e, rfl⟩

theorem Legible.cons {c : Char} (h : Spells part c) (hcs : Legible cs) : Legible (part ++ cs) := by
  rcases hcs with ⟨s, hs⟩ | hfails
  · exact Or.inl ⟨c :: s, .cons h hs⟩
  · refine Or.inr fun rest => ?_
    rw [List.append_assoc]
    exact fails_chars_cons h (hfails rest)

theorem fails_chars_escape (h : ∃ e, readEscape cs = .error e) :
    ∃ e, readChars ('\\' :: cs) = .error e := by
  obtain ⟨e, h⟩ := h
  rw [readChars]
  simp only [h]
  exact ⟨e, rfl⟩

/-- A second half of a pair cannot come first. -/
theorem legible_trailing (h : Quad q n) (hn : isTrailing n = true) (cs : List Char) :
    Legible ('\\' :: 'u' :: (q ++ cs)) := by
  refine Or.inr fun rest => ?_
  rw [List.cons_append, List.cons_append, List.append_assoc]
  obtain ⟨_, hread⟩ := reads_quad h (cs ++ '"' :: rest)
  refine fails_chars_escape ⟨.before .loneSurrogate (cs ++ '"' :: rest), ?_⟩
  simp only [readEscape, if_true, hread, hn]

/-- Behind the first half of a pair nothing but the second half can come. -/
theorem legible_leading (h : Quad q n) (hn : isLeading n = true)
    (hnext : ∀ rest, ∃ e, readTrailing n (cs ++ '"' :: rest) = .error e) :
    Legible ('\\' :: 'u' :: (q ++ cs)) := by
  refine Or.inr fun rest => ?_
  rw [List.cons_append, List.cons_append, List.append_assoc]
  obtain ⟨_, hread⟩ := reads_quad h (cs ++ '"' :: rest)
  obtain ⟨e, hnext⟩ := hnext rest
  refine fails_chars_escape ⟨e, ?_⟩
  simp only [readEscape, if_true, hread, isTrailing_of_isLeading hn, hn, hnext]
  rfl

theorem fails_trailing_plain {c : Char} (hc : c ≠ '\\') (n : Nat) (rest : List Char) :
    ∃ e, readTrailing n (c :: rest) = .error e := by
  refine ⟨.into .unpairedSurrogate (c :: rest), ?_⟩
  rw [readTrailing]
  all_goals simp [hc]

theorem fails_trailing_short {l : Char} (hl : l ≠ 'u') (n : Nat) (rest : List Char) :
    ∃ e, readTrailing n ('\\' :: l :: rest) = .error e := by
  refine ⟨.into .unpairedSurrogate (l :: rest), ?_⟩
  rw [readTrailing]
  all_goals simp [hl]

theorem fails_trailing_code {m : Nat} (h : Quad q m) (hm : isTrailing m = false) (n : Nat)
    (rest : List Char) : ∃ e, readTrailing n ('\\' :: 'u' :: (q ++ rest)) = .error e := by
  obtain ⟨_, hread⟩ := reads_quad h rest
  simp only [readTrailing, hread, hm]
  exact ⟨_, rfl⟩

/-- Letters are legible, also behind the first half of a pair, where the next letter has to be the
second half. -/
theorem Lettered.legible_both (h : Lettered cs) :
    Legible cs ∧
      ∀ q n, Quad q n → isLeading n = true → Legible ('\\' :: 'u' :: (q ++ cs)) := by
  -- A pair takes two letters, so one letter alone does not say what is read: the induction carries
  -- along what comes of the letters behind a first half that waits for them.
  induction h with
  | nil =>
    refine ⟨Or.inl ⟨[], .nil⟩, fun q n hq hn => legible_leading hq hn fun rest => ?_⟩
    exact fails_trailing_plain (by decide) n rest
  | cons hpart _ ih =>
    cases hpart with
    | plain hquote hback hcontrol =>
      refine ⟨ih.1.cons (.plain hquote hback hcontrol), fun q n hq hn => ?_⟩
      exact legible_leading hq hn fun rest => fails_trailing_plain hback n _
    | short hshort =>
      refine ⟨ih.1.cons (.escaped (.short hshort)), fun q n hq hn => ?_⟩
      refine legible_leading hq hn fun rest => fails_trailing_short ?_ n _
      rintro rfl
      cases hshort
    | @code q' m hq' =>
      cases htrail : isTrailing m with
      | true =>
        refine ⟨legible_trailing hq' htrail _, fun q n hq hn => ?_⟩
        have hpair := ih.1.cons (.escaped (.halves hq hn hq' htrail))
        simpa only [List.cons_append, List.append_assoc] using hpair
      | false =>
        refine ⟨?_, fun q n hq hn => legible_leading hq hn fun rest => ?_⟩
        · cases hlead : isLeading m with
          | true => exact ih.2 q' m hq' hlead
          | false => exact ih.1.cons (.escaped (.code hq' hlead htrail))
        · rw [List.append_assoc]
          exact fails_trailing_code hq' htrail n _

theorem Lettered.legible (h : Lettered cs) : Legible cs := h.legible_both.1

/-- What spells a string is made of letters. -/
theorem Spelled.lettered {s : List Char} (h : Spelled cs s) : Lettered cs := by
  induction h with
  | nil => exact .nil
  | cons hpart _ ih =>
    cases hpart with
    | plain hquote hback hcontrol => exact .cons (.plain hquote hback hcontrol) ih
    | escaped he =>
      cases he with
      | short hshort => exact .cons (.short hshort) ih
      | code hq => exact .cons (.code hq) ih
      | halves hq _ hq' _ =>
        have hboth := Lettered.cons (.code hq) (.cons (.code hq') ih)
        simpa only [List.cons_append, List.append_assoc] using hboth

/-! ## 2. Values -/

/-- The texts with commas between them, or only blanks if there are none. -/
inductive Separated : List Char → List (List Char) → Prop
  | none {b : List Char} : Blanks b → Separated b []
  | some {x : List Char} {xs : List (List Char)} :
      Separated (commaSeparated (x :: xs)) (x :: xs)

/-- The parts of a member: its key, as it stands between the quotes, the text of its value, and
what stands before the key and behind it. -/
structure MemberText where
  before : List Char
  key : List Char
  behind : List Char
  value : List Char

/-- The text of a member. -/
def MemberText.chars (m : MemberText) : List Char :=
  m.before ++ '"' :: (m.key ++ '"' :: (m.behind ++ ':' :: m.value))

/-- The key of a member is a string, with blanks around it. -/
def MemberText.Keyed (m : MemberText) : Prop := Blanks m.before ∧ Lettered m.key ∧ Blanks m.behind

/-- The text is a JSON value, with blanks around it or without. -/
inductive Formed : List Char → Prop
  | null : Formed ['n', 'u', 'l', 'l']
  | true : Formed ['t', 'r', 'u', 'e']
  | false : Formed ['f', 'a', 'l', 's', 'e']
  | number {cs : List Char} : Numeral cs → Formed cs
  | string {cs : List Char} : Lettered cs → Formed ('"' :: (cs ++ ['"']))
  | list {cs : List Char} {xs : List (List Char)} :
      Separated cs xs → (∀ x ∈ xs, Formed x) → Formed ('[' :: (cs ++ [']']))
  | object {cs : List Char} {ms : List MemberText} :
      Separated cs (ms.map MemberText.chars) → (∀ m ∈ ms, m.Keyed) → (∀ m ∈ ms, Formed m.value) →
      Formed ('\x7b' :: (cs ++ ['\x7d']))
  | blanks {a x b : List Char} : Blanks a → Formed x → Blanks b → Formed (a ++ (x ++ b))

/-- The text is a list, and these are the texts of its elements. -/
inductive ListText : List Char → List (List Char) → Prop
  | text {a cs b : List Char} {xs : List (List Char)} :
      Blanks a → Separated cs xs → (∀ x ∈ xs, Formed x) → Blanks b →
      ListText (a ++ '[' :: (cs ++ ']' :: b)) xs

/-- The text is an object, and these are its members. -/
inductive ObjectText : List Char → List MemberText → Prop
  | text {a cs b : List Char} {ms : List MemberText} :
      Blanks a → Separated cs (ms.map MemberText.chars) → (∀ m ∈ ms, m.Keyed) →
      (∀ m ∈ ms, Formed m.value) → Blanks b → ObjectText (a ++ '\x7b' :: (cs ++ '\x7d' :: b)) ms

theorem ListText.formed {cs : List Char} {xs : List (List Char)} (h : ListText cs xs) :
    ∀ x ∈ xs, Formed x := by
  cases h with
  | text _ _ hformed _ => exact hformed

theorem separated_commaSeparated (parts : List (List Char)) :
    Separated (commaSeparated parts) parts := by
  cases parts with
  | nil => exact .none nofun
  | cons part parts => exact .some

theorem commaSeparated_cons_cons (x y : List Char) (xs : List (List Char)) :
    commaSeparated (x :: y :: xs) = x ++ ',' :: commaSeparated (y :: xs) := rfl

theorem Written.fronts_value {cs : List Char} {v : Value} (h : Written cs (.value v))
    (rest : List Char) : ∃ c r, Fronts (cs ++ rest) c r ∧ c ≠ ']' := by
  obtain ⟨c, r, rfl, hc⟩ := h.exists_cons
  exact ⟨c, r ++ rest, fronts_cons hc.ne.1 _, hc.ne.2.1⟩

/-- A value does not begin as a list ends. -/
theorem Formed.fronts {x : List Char} (h : Formed x) (rest : List Char) :
    ∃ c r, Fronts (x ++ rest) c r ∧ c ≠ ']' := by
  induction h generalizing rest with
  | null => exact Written.null.fronts_value rest
  | true => exact Written.true.fronts_value rest
  | false => exact Written.false.fronts_value rest
  | number hn => exact (Written.number hn).fronts_value rest
  | string | list | object => exact ⟨_, _, fronts_cons rfl _, by decide⟩
  | @blanks a x b ha _ _ ih =>
    obtain ⟨c, r, hfront, hc⟩ := ih (b ++ rest)
    refine ⟨c, r, ?_, hc⟩
    rw [List.append_assoc, List.append_assoc]
    exact (fronts_blanks ha).mpr hfront

end TidyTree.Json
