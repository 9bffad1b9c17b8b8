/-
TidyTree.Proofs.Json.Strings — what spells a string, and that it is
read as that string.

A character can be spelled in several ways: as itself, by a letter
behind a backslash, by its number or by the two halves of a surrogate
pair.  `Spells` lists them and does not know the reader; the reader
reads every spelling (`reads_string`), and what is written is one of
them (`spells_escape`).
-/
import Mathlib.Data.List.Basic
import TidyTree.Json.Scan
import TidyTree.Json.Write

namespace TidyTree.Json

/-! ## 1. Readings -/

/-- The reading succeeds with a value and leaves the characters `rest`. -/
def Reads {α : Type} {cs : List Char} (reading : Reading α cs) (a : α) (rest : List Char) : Prop :=
  ∃ h, reading = .ok (a, ⟨rest, h⟩)

/-- The first character behind the blanks is `c`, with `rest` behind it. -/
def Fronts (cs : List Char) (c : Char) (rest : List Char) : Prop :=
  ∃ h, front cs = .char c ⟨rest, h⟩

theorem fronts_cons {c : Char} (hc : isBlank c = false) (cs : List Char) :
    Fronts (c :: cs) c cs := by
  have hskip : skipBlanks (c :: cs) = c :: cs := by simp [skipBlanks, hc]
  refine ⟨Nat.lt_succ_self _, ?_⟩
  unfold front
  split
  · next h => rw [hskip] at h; cases h
  · next h => rw [hskip] at h; cases h; rfl

theorem front_nil : front [] = .nothing := rfl

/-! ## 2. Spellings -/

/-- Four hexadecimal digits and their number. -/
inductive Quad : List Char → Nat → Prop
  | digits {a b c d : Char} {a' b' c' d' : Nat} :
      hexDigit? a = some a' → hexDigit? b = some b' → hexDigit? c = some c' →
      hexDigit? d = some d' → Quad [a, b, c, d] (a' * 4096 + b' * 256 + c' * 16 + d')

/-- The characters that may stand behind a backslash for a character. -/
inductive Escapes : List Char → Char → Prop
  | short {l c : Char} : shortEscape? l = some c → Escapes [l] c
  | code {q : List Char} {n : Nat} :
      Quad q n → isLeading n = false → isTrailing n = false → Escapes ('u' :: q) (Char.ofNat n)
  | halves {q q' : List Char} {n m : Nat} :
      Quad q n → isLeading n = true → Quad q' m → isTrailing m = true →
      Escapes ('u' :: (q ++ '\\' :: 'u' :: q')) (pair n m)

/-- The characters that may stand between quotes for a character. -/
inductive Spells : List Char → Char → Prop
  | plain {c : Char} : c ≠ '"' → c ≠ '\\' → 32 ≤ c.toNat → Spells [c] c
  | escaped {e : List Char} {c : Char} : Escapes e c → Spells ('\\' :: e) c

/-- The characters that may stand between quotes for some characters. -/
inductive Spelled : List Char → List Char → Prop
  | nil : Spelled [] []
  | cons {part cs : List Char} {c : Char} {s : List Char} :
      Spells part c → Spelled cs s → Spelled (part ++ cs) (c :: s)

/-! ## 3. Reading what is spelled -/

theorem reads_quad {q : List Char} {n : Nat} (h : Quad q n) (rest : List Char) :
    Reads (readQuad (q ++ rest)) n rest := by
  cases h with
  | digits ha hb hc hd =>
    simp only [List.cons_append, List.nil_append, readQuad, ha, hb, hc, hd]
    exact ⟨_, rfl⟩

/-- No number is both that of a first and that of a second half. -/
theorem isTrailing_of_isLeading {n : Nat} (h : isLeading n = true) : isTrailing n = false := by
  simp only [isLeading, isTrailing, Bool.and_eq_true, decide_eq_true_eq, Bool.and_eq_false_iff,
    decide_eq_false_iff_not] at *
  omega

theorem reads_trailing {q : List Char} {m : Nat} (h : Quad q m) (hm : isTrailing m = true)
    (n : Nat) (rest : List Char) :
    Reads (readTrailing n ('\\' :: 'u' :: (q ++ rest))) (pair n m) rest := by
  obtain ⟨hless, hread⟩ := reads_quad h rest
  simp only [readTrailing, hread, hm, if_true]
  exact ⟨_, rfl⟩

theorem reads_escape {e : List Char} {c : Char} (h : Escapes e c) (rest : List Char) :
    Reads (readEscape (e ++ rest)) c rest := by
  cases h with
  | @short l c hshort =>
    have hu : l ≠ 'u' := by
      rintro rfl
      cases hshort
    simp only [List.singleton_append, readEscape, hu, if_false, hshort]
    exact ⟨_, rfl⟩
  | code hq hlead htrail =>
    obtain ⟨hless, hread⟩ := reads_quad hq rest
    simp only [List.cons_append, readEscape, if_true, hread, hlead, htrail]
    exact ⟨_, rfl⟩
  | @halves q q' n m hq hlead hq' htrail =>
    obtain ⟨hless, hread⟩ := reads_quad hq ('\\' :: 'u' :: (q' ++ rest))
    obtain ⟨hless', hread'⟩ := reads_trailing hq' htrail n rest
    rw [List.cons_append, List.append_assoc, List.cons_append, List.cons_append]
    simp only [readEscape, if_true, hread, hlead, isTrailing_of_isLeading hlead, hread']
    exact ⟨_, rfl⟩

/-- A spelled character is read before what follows it. -/
theorem reads_chars_cons {part cs rest : List Char} {c : Char} {s : List Char}
    (h : Spells part c) (hcs : Reads (readChars cs) s rest) :
    Reads (readChars (part ++ cs)) (c :: s) rest := by
  obtain ⟨hless, hread⟩ := hcs
  cases h with
  | plain hquote hback hcontrol =>
    rw [List.singleton_append, readChars]
    simp only [hquote, hback, Nat.not_lt.mpr hcontrol, if_false, hread]
    exact ⟨_, rfl⟩
  | escaped he =>
    obtain ⟨hless', hescape⟩ := reads_escape he cs
    rw [List.cons_append, readChars]
    simp only [hescape, hread]
    exact ⟨_, rfl⟩

/-- What spells some characters is read as these, up to the closing quote. -/
theorem reads_chars {cs s : List Char} (h : Spelled cs s) (rest : List Char) :
    Reads (readChars (cs ++ '"' :: rest)) s rest := by
  induction h with
  | nil =>
    rw [List.nil_append, readChars]
    exact ⟨_, rfl⟩
  | cons hpart _ ih =>
    rw [List.append_assoc]
    exact reads_chars_cons hpart ih

theorem reads_string {cs : List Char} {s : String} (h : Spelled cs s.toList) (rest : List Char) :
    Reads (readString (cs ++ '"' :: rest)) s rest := by
  obtain ⟨hless, hread⟩ := reads_chars h rest
  refine ⟨hless, ?_⟩
  simp only [readString, hread, String.ofList_toList]

/-! ## 4. What is written -/

theorem hexDigit?_hexDigit : ∀ n < 16, hexDigit? (hexDigit n) = some n := by
  decide

/-- The two digits of a control character. -/
theorem quad_control {n : Nat} (hn : n < 32) :
    Quad ['0', '0', hexDigit (n / 16), hexDigit (n % 16)] n := by
  have h : Quad ['0', '0', hexDigit (n / 16), hexDigit (n % 16)]
      (0 * 4096 + 0 * 256 + n / 16 * 16 + n % 16) :=
    .digits rfl rfl (hexDigit?_hexDigit _ (by omega)) (hexDigit?_hexDigit _ (by omega))
  have hsum : 0 * 4096 + 0 * 256 + n / 16 * 16 + n % 16 = n := by omega
  rwa [hsum] at h

/-- The three ways in which a character is written. -/
theorem escape_cases (c : Char) :
    (∃ l, shortEscape? l = some c ∧ escape c = ['\\', l]) ∨
      (c.toNat < 32 ∧ escape c =
        ['\\', 'u', '0', '0', hexDigit (c.toNat / 16), hexDigit (c.toNat % 16)]) ∨
      c ≠ '"' ∧ c ≠ '\\' ∧ 32 ≤ c.toNat ∧ escape c = [c] := by
  by_cases hshort : c ∈ ['"', '\\', '\x08', '\x0c', '\n', '\r', '\t']
  · simp only [List.mem_cons, List.not_mem_nil, or_false] at hshort
    left
    rcases hshort with rfl | rfl | rfl | rfl | rfl | rfl | rfl
    exacts [⟨'"', rfl, rfl⟩, ⟨'\\', rfl, rfl⟩, ⟨'b', rfl, rfl⟩, ⟨'f', rfl, rfl⟩, ⟨'n', rfl, rfl⟩,
      ⟨'r', rfl, rfl⟩, ⟨'t', rfl, rfl⟩]
  · simp only [List.mem_cons, List.not_mem_nil, or_false, not_or] at hshort
    obtain ⟨hquote, hback, hb, hf, hn, hr, ht⟩ := hshort
    by_cases hcontrol : c.toNat < 32
    · exact Or.inr (Or.inl ⟨hcontrol, by simp [escape, *]⟩)
    · exact Or.inr (Or.inr ⟨hquote, hback, Nat.not_lt.mp hcontrol, by simp [escape, *]⟩)

/-- What is written for a character spells it. -/
theorem spells_escape (c : Char) : Spells (escape c) c := by
  rcases escape_cases c with ⟨l, hshort, he⟩ | ⟨hcontrol, he⟩ | ⟨hquote, hback, hplain, he⟩
  · rw [he]
    exact .escaped (.short hshort)
  · have hcode : Escapes ('u' :: ['0', '0', hexDigit (c.toNat / 16), hexDigit (c.toNat % 16)])
        (Char.ofNat c.toNat) :=
      .code (quad_control hcontrol) (by simp [isLeading]; omega) (by simp [isTrailing]; omega)
    rw [Char.ofNat_toNat] at hcode
    rw [he]
    exact .escaped hcode
  · rw [he]
    exact .plain hquote hback hplain

theorem spelled_flatMap_escape (s : List Char) : Spelled (s.flatMap escape) s := by
  induction s with
  | nil => exact .nil
  | cons c s ih => exact .cons (spells_escape c) ih

end TidyTree.Json
