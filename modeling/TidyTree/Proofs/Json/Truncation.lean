/-
TidyTree.Proofs.Json.Truncation — texts that stop too early.

`Cut` says where a text can stop: anywhere before its end.  A cut of
two parts one after the other falls into the first part, or behind it
into the second (`Cut.append`), so that a reader is followed through the
parts it has read whole up to the one that is cut.  A string that is cut
is a failure that says so, in whatever way its characters are spelled.
-/
import TidyTree.Proofs.Json.Strings

namespace TidyTree.Json

/-! ## 1. Cuts -/

/-- The text begins with `cs` and has more characters. -/
def Cut (cs text : List Char) : Prop := ∃ rest, rest ≠ [] ∧ text = cs ++ rest

variable {as bs cs rest : List Char}

theorem Cut.cons {c : Char} (h : Cut cs (c :: rest)) : cs = [] ∨ ∃ r, cs = c :: r ∧ Cut r rest := by
  obtain ⟨more, hmore, htext⟩ := h
  cases cs with
  | nil => exact Or.inl rfl
  | cons d r =>
    obtain ⟨rfl, hrest⟩ := List.cons.inj htext
    exact Or.inr ⟨r, rfl, more, hmore, hrest⟩

theorem Cut.append (h : Cut cs (as ++ bs)) : Cut cs as ∨ ∃ r, cs = as ++ r ∧ Cut r bs := by
  induction as generalizing cs with
  | nil => exact Or.inr ⟨cs, rfl, h⟩
  | cons a as ih =>
    obtain rfl | ⟨r, rfl, hr⟩ := Cut.cons h
    · exact Or.inl ⟨a :: as, List.cons_ne_nil _ _, rfl⟩
    · obtain ⟨more, hmore, rfl⟩ | ⟨t, rfl, ht⟩ := ih hr
      · exact Or.inl ⟨more, hmore, rfl⟩
      · exact Or.inr ⟨t, rfl, ht⟩

theorem Cut.nil_of_singleton {c : Char} (h : Cut cs [c]) : cs = [] := by
  obtain rfl | ⟨r, -, more, hmore, hnil⟩ := h.cons
  · rfl
  · exact absurd (List.append_eq_nil_iff.mp hnil.symm).2 hmore

/-- The reader fails, and says that the text ends too early. -/
def Ends {α : Type} (answer : Except Failure α) : Prop :=
  ∃ e, answer = .error e ∧ e.cause.category = .truncated

/-! ## 2. Escapes -/

/-- A hexadecimal digit takes one byte. -/
theorem utf8Size_of_hexDigit? {c : Char} {n : Nat} (h : hexDigit? c = some n) : c.utf8Size = 1 := by
  have hle : c ≤ 'f' := by
    unfold hexDigit? at h
    split at h
    · next hc => exact Char.le_trans hc.2 (by decide)
    · split at h
      · next hc => exact hc.2
      · split at h
        · next hc => exact Char.le_trans hc.2 (by decide)
        · cases h
  rw [Char.utf8Size_eq_one_iff]
  exact Nat.le_trans (UInt32.le_iff_toNat_le.mp hle) (by decide)

theorem ends_quad {q : List Char} {n : Nat} (h : Quad q n) (hcut : Cut cs q) :
    Ends (readQuad cs) := by
  have hends : ∀ r : List Char, readQuad r = .error (quadFailure r) → byteLength r < 4 →
      Ends (readQuad r) := by
    intro r hr hshort
    rw [hr, quadFailure, if_pos hshort]
    exact ⟨_, rfl, rfl⟩
  cases h with
  | digits ha hb hc hd =>
    -- Fewer than four digits take fewer than four bytes.
    have ha := utf8Size_of_hexDigit? ha
    have hb := utf8Size_of_hexDigit? hb
    have hc := utf8Size_of_hexDigit? hc
    obtain rfl | ⟨r, rfl, hr⟩ := hcut.cons
    · exact hends _ rfl (by decide)
    obtain rfl | ⟨s, rfl, hs⟩ := hr.cons
    · exact hends _ rfl (by simp only [byteLength]; omega)
    obtain rfl | ⟨t, rfl, ht⟩ := hs.cons
    · exact hends _ rfl (by simp only [byteLength]; omega)
    obtain rfl := ht.nil_of_singleton
    exact hends _ rfl (by simp only [byteLength]; omega)

theorem ends_trailing {q : List Char} {m : Nat} (h : Quad q m) (hcut : Cut cs ('\\' :: 'u' :: q))
    (n : Nat) : Ends (readTrailing n cs) := by
  obtain rfl | ⟨r, rfl, hr⟩ := hcut.cons
  · exact ⟨_, rfl, rfl⟩
  obtain rfl | ⟨s, rfl, hs⟩ := hr.cons
  · exact ⟨_, rfl, rfl⟩
  obtain ⟨e, hread, he⟩ := ends_quad h hs
  simp only [readTrailing, hread]
  exact ⟨e, rfl, he⟩

theorem ends_escape {e : List Char} {c : Char} (h : Escapes e c) (hcut : Cut cs e) :
    Ends (readEscape cs) := by
  have hnil : Ends (readEscape []) := ⟨_, rfl, rfl⟩
  have hquad : ∀ r, Ends (readQuad r) → Ends (readEscape ('u' :: r)) := by
    rintro r ⟨f, hread, hf⟩
    simp only [readEscape, if_true, hread]
    exact ⟨f, rfl, hf⟩
  cases h with
  | short =>
    obtain rfl := hcut.nil_of_singleton
    exact hnil
  | code hq =>
    obtain rfl | ⟨r, rfl, hr⟩ := hcut.cons
    · exact hnil
    · exact hquad r (ends_quad hq hr)
  | @halves q q' n m hq hlead hq' =>
    obtain rfl | ⟨r, rfl, hr⟩ := hcut.cons
    · exact hnil
    obtain hfirst | ⟨s, rfl, hs⟩ := hr.append
    · exact hquad r (ends_quad hq hfirst)
    obtain ⟨_, hfirst⟩ := reads_quad hq s
    obtain ⟨f, hsecond, hf⟩ := ends_trailing hq' hs n
    simp only [readEscape, if_true, hfirst, hlead, isTrailing_of_isLeading hlead, hsecond]
    exact ⟨f, rfl, hf⟩

/-! ## 3. Strings -/

theorem ends_chars_nil : Ends (readChars []) := by
  rw [readChars]
  exact ⟨_, rfl, rfl⟩

/-- A spelling that is cut ends the text. -/
theorem ends_chars_part {part : List Char} {c : Char} (h : Spells part c) (hcut : Cut cs part) :
    Ends (readChars cs) := by
  cases h with
  | plain =>
    obtain rfl := hcut.nil_of_singleton
    exact ends_chars_nil
  | escaped he =>
    obtain rfl | ⟨r, rfl, hr⟩ := hcut.cons
    · exact ends_chars_nil
    · obtain ⟨f, hescape, hf⟩ := ends_escape he hr
      rw [readChars]
      simp only [hescape]
      exact ⟨f, rfl, hf⟩

/-- A text that ends behind a spelled character ends with it. -/
theorem ends_chars_cons {part : List Char} {c : Char} (h : Spells part c)
    (hcs : Ends (readChars cs)) : Ends (readChars (part ++ cs)) := by
  obtain ⟨f, hcs, hf⟩ := hcs
  cases h with
  | plain hquote hback hcontrol =>
    rw [List.singleton_append, readChars]
    simp only [hquote, hback, Nat.not_lt.mpr hcontrol, if_false, hcs]
    exact ⟨f, rfl, hf⟩
  | escaped he =>
    obtain ⟨_, hescape⟩ := reads_escape he cs
    rw [List.cons_append, readChars]
    simp only [hescape, hcs]
    exact ⟨f, rfl, hf⟩

theorem ends_chars {s : List Char} (h : Spelled as s) (hcut : Cut cs (as ++ ['"'])) :
    Ends (readChars cs) := by
  induction h generalizing cs with
  | nil =>
    obtain rfl := hcut.nil_of_singleton
    exact ends_chars_nil
  | cons hpart _ ih =>
    rw [List.append_assoc] at hcut
    obtain hpart' | ⟨r, rfl, hr⟩ := hcut.append
    · exact ends_chars_part hpart hpart'
    · exact ends_chars_cons hpart (ih hr)

/-- A string cut before its closing quote ends the text. -/
theorem ends_string {s : List Char} (h : Spelled as s) (hcut : Cut cs (as ++ ['"'])) :
    Ends (readString cs) := by
  obtain ⟨f, hread, hf⟩ := ends_chars h hcut
  simp only [readString, hread]
  exact ⟨f, rfl, hf⟩

end TidyTree.Json
