/-
TidyTree.Json.Scan — reading the parts of a JSON text from its front.

Every function here takes the characters not yet read and gives what it
read together with the rest.  The rest carries a proof that it is
shorter (`Rest`), so that all recursion on a text ends.
-/
import TidyTree.Json.Failure

namespace TidyTree.Json

/-! ## 1. What is left of a text -/

/-- A text shorter than `cs`: what is left after something of `cs` was read. -/
abbrev Rest (cs : List Char) := { r : List Char // r.length < cs.length }

/-- What is left of a text of which still less is left. -/
def Rest.less {cs : List Char} (r : Rest cs) (t : Rest r.val) : Rest cs :=
  ⟨t.val, Nat.lt_trans t.property r.property⟩

/-- What is left after the first character. -/
def Rest.tail (c : Char) (cs : List Char) : Rest (c :: cs) := ⟨cs, Nat.lt_succ_self _⟩

/-- A text not longer than `cs`: what is left after perhaps nothing of `cs` was read. -/
abbrev Remains (cs : List Char) := { r : List Char // r.length ≤ cs.length }

/-- What is left if nothing was read. -/
def Remains.all (cs : List Char) : Remains cs := ⟨cs, Nat.le_refl _⟩

/-- What is left after the first character and perhaps more. -/
def Remains.skip {c : Char} {cs : List Char} (r : Remains cs) : Remains (c :: cs) :=
  ⟨r.val, Nat.le_succ_of_le r.property⟩

/-- What is left after the first character and perhaps more, which is less than before. -/
def Remains.behind {cs : List Char} (c : Char) (r : Remains cs) : Rest (c :: cs) :=
  ⟨r.val, Nat.lt_succ_of_le r.property⟩

/-- What is left of a text of which perhaps still less is left. -/
def Remains.orLess {cs : List Char} (r : Remains cs) (t : Remains r.val) : Remains cs :=
  ⟨t.val, Nat.le_trans t.property r.property⟩

/-- What is left of a shorter text of which perhaps still less is left. -/
def Rest.orLess {cs : List Char} (r : Rest cs) (t : Remains r.val) : Rest cs :=
  ⟨t.val, Nat.lt_of_le_of_lt t.property r.property⟩

/-- What is left after something was read, as what may be all. -/
def Rest.remains {cs : List Char} (r : Rest cs) : Remains cs :=
  ⟨r.val, Nat.le_of_lt r.property⟩

/-- Something read from the front of `cs`, with what is left, or why it could not be read. -/
abbrev Reading (α : Type) (cs : List Char) := Except Failure (α × Rest cs)

/-- The characters that may stand between the parts of a text. -/
def isBlank (c : Char) : Bool := c == ' ' || c == '\n' || c == '\t' || c == '\r'

/-- The text without the blanks at its front. -/
def skipBlanks : List Char → List Char
  | [] => []
  | c :: cs => if isBlank c then skipBlanks cs else c :: cs

/-- Skipping blanks makes no text longer. -/
theorem length_skipBlanks_le (cs : List Char) : (skipBlanks cs).length ≤ cs.length := by
  induction cs with
  | nil => exact Nat.le_refl _
  | cons c cs ih =>
    unfold skipBlanks
    split
    · exact Nat.le_succ_of_le ih
    · exact Nat.le_refl _

/-- The first character after the blanks, if there is one, and what follows it. -/
inductive Front (cs : List Char) where
  | nothing
  | char (c : Char) (rest : Rest cs)

/-- Finds the first character after the blanks. -/
def front (cs : List Char) : Front cs :=
  match h : skipBlanks cs with
  | [] => .nothing
  | c :: r => .char c ⟨r, by
      have := length_skipBlanks_le cs
      rw [h] at this
      exact this⟩

/-! ## 2. Words -/

/-- Reads the characters of a word one after the other. -/
def readWord : (word cs : List Char) → Except Failure (Remains cs)
  | [], cs => .ok (.all cs)
  | _ :: _, [] => .error (.before .endInValue [])
  | w :: ws, c :: cs =>
    if c = w then
      match readWord ws cs with
      | .ok r => .ok r.skip
      | .error e => .error e
    else .error (.into .expectedIdent (c :: cs))

/-! ## 3. Strings -/

/-- The value of a hexadecimal digit. -/
def hexDigit? (c : Char) : Option Nat :=
  if '0' ≤ c ∧ c ≤ '9' then some (c.toNat - '0'.toNat)
  else if 'a' ≤ c ∧ c ≤ 'f' then some (c.toNat - 'a'.toNat + 10)
  else if 'A' ≤ c ∧ c ≤ 'F' then some (c.toNat - 'A'.toNat + 10)
  else none

/-- The failure of reading four hexadecimal digits from `cs`: the text ends within the next four
bytes, or these are no such digits. -/
def quadFailure (cs : List Char) : Failure :=
  if byteLength cs < 4 then ⟨.endInString, 0⟩ else ⟨.invalidEscape, byteLength cs - 4⟩

/-- Reads four hexadecimal digits. -/
def readQuad (cs : List Char) : Reading Nat cs :=
  match cs with
  | a :: b :: c :: d :: r =>
    match hexDigit? a, hexDigit? b, hexDigit? c, hexDigit? d with
    | some a', some b', some c', some d' =>
      .ok (a' * 4096 + b' * 256 + c' * 16 + d', ⟨r, by simp; omega⟩)
    | _, _, _, _ => .error (quadFailure (a :: b :: c :: d :: r))
  | cs => .error (quadFailure cs)

/-- Whether the number is the first half of a surrogate pair. -/
def isLeading (n : Nat) : Bool := 0xD800 ≤ n && n ≤ 0xDBFF

/-- Whether the number is the second half of a surrogate pair. -/
def isTrailing (n : Nat) : Bool := 0xDC00 ≤ n && n ≤ 0xDFFF

/-- The character of a surrogate pair. -/
def pair (n m : Nat) : Char := Char.ofNat ((n - 0xD800) * 1024 + (m - 0xDC00) + 0x10000)

/-- The character that a backslash and this letter stand for. -/
def shortEscape? (c : Char) : Option Char :=
  if c = '"' then some '"'
  else if c = '\\' then some '\\'
  else if c = '/' then some '/'
  else if c = 'b' then some '\x08'
  else if c = 'f' then some '\x0c'
  else if c = 'n' then some '\n'
  else if c = 'r' then some '\r'
  else if c = 't' then some '\t'
  else none

/-- Reads the second half of a surrogate pair whose first half was `n`. -/
def readTrailing (n : Nat) (cs : List Char) : Reading Char cs :=
  match cs with
  | [] => .error (.before .endInString [])
  | '\\' :: [] => .error (.before .endInString [])
  | '\\' :: 'u' :: r =>
    match readQuad r with
    | .error e => .error e
    | .ok (m, ⟨t, h⟩) =>
      if isTrailing m then .ok (pair n m, ⟨t, by simp; omega⟩)
      else .error (.before .loneSurrogate t)
  | '\\' :: r => .error (.into .unpairedSurrogate r)
  | cs => .error (.into .unpairedSurrogate cs)

/-- Reads an escape, of which the backslash is already read. -/
def readEscape (cs : List Char) : Reading Char cs :=
  match cs with
  | [] => .error (.before .endInString [])
  | c :: r =>
    if c = 'u' then
      match readQuad r with
      | .error e => .error e
      | .ok (n, ⟨t, h⟩) =>
        if isTrailing n then .error (.before .loneSurrogate t)
        else if isLeading n then
          match readTrailing n t with
          | .error e => .error e
          | .ok (d, ⟨u, h'⟩) => .ok (d, ⟨u, by simp; omega⟩)
        else .ok (Char.ofNat n, ⟨t, by simp; omega⟩)
    else
      match shortEscape? c with
      | some d => .ok (d, .tail c r)
      | none => .error (.into .invalidEscape (c :: r))

/-- Reads the characters of a string up to its closing quote. -/
def readChars (cs : List Char) : Reading (List Char) cs :=
  match cs with
  | [] => .error (.before .endInString [])
  | c :: r =>
    if c = '"' then .ok ([], .tail c r)
    else if c = '\\' then
      match readEscape r with
      | .error e => .error e
      | .ok (d, ⟨t, h⟩) =>
        match readChars t with
        | .error e => .error e
        | .ok (s, ⟨u, h'⟩) => .ok (d :: s, ⟨u, by simp; omega⟩)
    else if c.toNat < 32 then .error (.before .controlCharacter r)
    else
      match readChars r with
      | .error e => .error e
      | .ok (s, ⟨u, h⟩) => .ok (c :: s, ⟨u, by simp; omega⟩)
termination_by cs.length
decreasing_by all_goals (simp only [List.length_cons]; omega)

/-- Reads a string, of which the opening quote is already read. -/
def readString (cs : List Char) : Reading String cs :=
  match readChars cs with
  | .error e => .error e
  | .ok (s, r) => .ok (String.ofList s, r)

/-- Passes over an escape, of which the backslash is already read. -/
def skipEscape (cs : List Char) : Except Failure (Rest cs) :=
  match cs with
  | [] => .error (.before .endInString [])
  | c :: r =>
    if c = 'u' then
      match readQuad r with
      | .error e => .error e
      | .ok (_, ⟨t, h⟩) => .ok ⟨t, by simp; omega⟩
    else if (shortEscape? c).isSome then .ok (.tail c r)
    else .error (.into .invalidEscape (c :: r))

/-- Passes over a string up to its closing quote.  Halves of surrogate pairs may stand alone. -/
def skipString (cs : List Char) : Except Failure (Rest cs) :=
  match cs with
  | [] => .error (.before .endInString [])
  | c :: r =>
    if c = '"' then .ok (.tail c r)
    else if c = '\\' then
      match skipEscape r with
      | .error e => .error e
      | .ok ⟨t, h⟩ =>
        match skipString t with
        | .error e => .error e
        | .ok ⟨u, h'⟩ => .ok ⟨u, by simp; omega⟩
    else if c.toNat < 32 then .error (.before .controlCharacter (c :: r))
    else
      match skipString r with
      | .error e => .error e
      | .ok ⟨u, h⟩ => .ok ⟨u, by simp; omega⟩
termination_by cs.length
decreasing_by all_goals (simp only [List.length_cons]; omega)

end TidyTree.Json
