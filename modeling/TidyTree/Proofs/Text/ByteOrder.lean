/-
TidyTree.Proofs.Text.ByteOrder — texts are ordered like their bytes.

Names are sorted by their characters.  A file system knows names as
rows of bytes and sorts them byte by byte.  `utf8_lt_utf8_iff` says that
this is the same order: of two characters the one with the smaller
number has the smaller byte at the first place where their UTF-8 forms
differ, and neither form is a beginning of the other.
-/
import Mathlib.Data.List.Lex
import Mathlib.Data.String.Basic

namespace TidyTree.Text

/-- The bytes of a text in UTF-8. -/
def utf8 (s : String) : List UInt8 := s.toUTF8.data.toList

/-- The bytes of a text are those of its characters. -/
theorem utf8_eq_flatMap (s : String) : utf8 s = s.toList.flatMap String.utf8EncodeChar := by
  rw [utf8, String.toUTF8_eq_toByteArray, ← String.utf8Encode_toList, List.utf8Encode]
  simp

/-! ## 1. Characters -/

theorem ofNat_lt_ofNat {m n : Nat} (hm : m < 256) (hn : n < 256) :
    UInt8.ofNat m < UInt8.ofNat n ↔ m < n := by
  rw [UInt8.lt_iff_toNat_lt, UInt8.toNat_ofNat', UInt8.toNat_ofNat',
    Nat.mod_eq_of_lt hm, Nat.mod_eq_of_lt hn]

theorem ofNat_eq_ofNat {m n : Nat} (hm : m < 256) (hn : n < 256) :
    UInt8.ofNat m = UInt8.ofNat n ↔ m = n := by
  rw [← UInt8.toNat_inj, UInt8.toNat_ofNat', UInt8.toNat_ofNat',
    Nat.mod_eq_of_lt hm, Nat.mod_eq_of_lt hn]

/-- Numbers are compared by their digits in base 64. -/
theorem digits_lt {m n : Nat} (h : m < n) :
    m / 262144 < n / 262144 ∨ m / 262144 = n / 262144 ∧
      (m / 4096 % 64 < n / 4096 % 64 ∨ m / 4096 % 64 = n / 4096 % 64 ∧
        (m / 64 % 64 < n / 64 % 64 ∨ m / 64 % 64 = n / 64 % 64 ∧ m % 64 < n % 64)) := by
  have hm : m = ((m / 262144 * 64 + m / 4096 % 64) * 64 + m / 64 % 64) * 64 + m % 64 := by omega
  have hn : n = ((n / 262144 * 64 + n / 4096 % 64) * 64 + n / 64 % 64) * 64 + n % 64 := by omega
  have m1 : m / 4096 % 64 < 64 ∧ m / 64 % 64 < 64 ∧ m % 64 < 64 := by omega
  have n1 : n / 4096 % 64 < 64 ∧ n / 64 % 64 < 64 ∧ n % 64 < 64 := by omega
  generalize m / 262144 = a, m / 4096 % 64 = b, m / 64 % 64 = c, m % 64 = d at *
  generalize n / 262144 = a', n / 4096 % 64 = b', n / 64 % 64 = c', n % 64 = d' at *
  omega

/-- The form of a smaller character comes first, whatever follows the two. -/
theorem utf8EncodeChar_append_lt {c d : Char} (h : c < d) (r s : List UInt8) :
    String.utf8EncodeChar c ++ r < String.utf8EncodeChar d ++ s := by
  have hlt : c.val.toNat < d.val.toNat := h
  have hd : d.val.toNat < 1114112 := by
    rcases d.valid with h | h <;> omega
  simp only [String.utf8EncodeChar]
  generalize c.val.toNat = m at *
  generalize d.val.toNat = n at *
  have hdigits := digits_lt hlt
  have hm : m / 262144 % 8 = m / 262144 := Nat.mod_eq_of_lt (by omega)
  have hn : n / 262144 % 8 = n / 262144 := Nat.mod_eq_of_lt (by omega)
  -- Either the first bytes tell how many follow, or the digits do.
  split <;> split <;> (try split) <;> (try split) <;> (try split) <;> (try split)
  all_goals
    simp (disch := omega) only [List.cons_append, List.nil_append, List.cons_lt_cons_iff,
      ofNat_lt_ofNat, ofNat_eq_ofNat]
    omega

/-! ## 2. Texts -/

theorem utf8_lt_utf8 {a b : String} (h : a < b) : utf8 a < utf8 b := by
  have h : a.toList < b.toList := h
  rw [utf8_eq_flatMap, utf8_eq_flatMap]
  generalize a.toList = as at *
  generalize b.toList = bs at *
  induction as generalizing bs with
  | nil =>
    cases bs with
    | nil => exact absurd h (List.lt_irrefl [])
    | cons d ds =>
      rw [List.flatMap_nil, List.flatMap_cons]
      obtain ⟨x, xs, e⟩ := List.exists_cons_of_ne_nil (String.utf8EncodeChar_ne_nil (c := d))
      rw [e]
      exact List.nil_lt_cons x _
  | cons c cs ih =>
    cases bs with
    | nil => exact absurd h (List.not_lt_nil _)
    | cons d ds =>
      rw [List.flatMap_cons, List.flatMap_cons]
      rcases List.cons_lt_cons_iff.mp h with hcd | ⟨rfl, hrest⟩
      · exact utf8EncodeChar_append_lt hcd _ _
      · exact List.append_left_lt (ih ds hrest)

/-- The order of texts is that of their bytes. -/
theorem utf8_lt_utf8_iff {a b : String} : utf8 a < utf8 b ↔ a < b := by
  refine ⟨fun h => ?_, utf8_lt_utf8⟩
  rcases lt_trichotomy a b with hlt | rfl | hgt
  · exact hlt
  · exact absurd h (List.lt_irrefl _)
  · exact absurd h (List.lt_asymm (utf8_lt_utf8 hgt))

theorem utf8_injective {a b : String} (h : utf8 a = utf8 b) : a = b := by
  rcases lt_trichotomy a b with hlt | rfl | hgt
  · exact absurd (h ▸ utf8_lt_utf8 hlt) (List.lt_irrefl _)
  · rfl
  · exact absurd (h ▸ utf8_lt_utf8 hgt) (List.lt_irrefl _)

/-- Chains of texts are ordered like the chains of their bytes. -/
theorem map_utf8_lt_iff {as bs : List String} : as.map utf8 < bs.map utf8 ↔ as < bs := by
  induction as generalizing bs with
  | nil => cases bs <;> simp
  | cons a as ih =>
    cases bs with
    | nil => simp
    | cons b bs =>
      have heq : utf8 a = utf8 b ↔ a = b := ⟨utf8_injective, congrArg utf8⟩
      simp only [List.map_cons, List.cons_lt_cons_iff, utf8_lt_utf8_iff, heq, ih]

end TidyTree.Text
