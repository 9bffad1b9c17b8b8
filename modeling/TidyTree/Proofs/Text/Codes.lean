/-
TidyTree.Proofs.Text.Codes — a text as a row of characters and codes.

A code is what turns a style on or off: the escape character, an opening
bracket, a number and the letter `m`.  `parts` reads a text once from
its front and takes a code wherever one stands; the text without codes
is what is left (`withoutCodes`).  A space or a line feed belongs to no
code, so that texts may be read apart there, whatever they say
(`parts_cut`).  Styled pieces are read as they were put together
(`parts_render`).
-/
import Mathlib.Data.List.Basic
import TidyTree.Text.Styled

namespace TidyTree.Text

/-! ## 1. Reading a text -/

/-- A part of a text: a code with the digits of its number, or a character of no code. -/
inductive Part where
  | code (digits : List Char)
  | char (c : Char)
deriving DecidableEq, Repr

/-- The digits in front of an `m`, with what stands behind that. -/
def digitsToM? : List Char → Option (List Char × List Char)
  | [] => none
  | c :: cs =>
    if c = 'm' then some ([], cs)
    else if c.isDigit then (digitsToM? cs).map fun (digits, rest) => (c :: digits, rest)
    else none

/-- The digits of the code at the front of a text, with what stands behind it. -/
def code? : List Char → Option (List Char × List Char)
  | e :: b :: d :: cs =>
    if e = '\x1b' ∧ b = '[' ∧ d.isDigit then digitsToM? (d :: cs) else none
  | _ => none

theorem length_of_digitsToM? {cs digits rest : List Char}
    (h : digitsToM? cs = some (digits, rest)) : rest.length < cs.length := by
  induction cs generalizing digits with
  | nil => cases h
  | cons c cs ih =>
    rw [digitsToM?] at h
    split at h
    · cases h
      exact Nat.lt_succ_self _
    · split at h
      · obtain ⟨⟨ds, r⟩, hrest, heq⟩ := Option.map_eq_some_iff.mp h
        cases heq
        exact Nat.lt_succ_of_lt (ih hrest)
      · cases h

theorem length_of_code? {cs digits rest : List Char} (h : code? cs = some (digits, rest)) :
    rest.length < cs.length := by
  unfold code? at h
  split at h
  · next e b d cs =>
    split at h
    · have hlength := length_of_digitsToM? h
      simp only [List.length_cons] at hlength ⊢
      omega
    · cases h
  · cases h

/-- The text part by part.  Where a code can be read, it is. -/
def parts (cs : List Char) : List Part :=
  match cs with
  | [] => []
  | c :: r =>
    match _ : code? (c :: r) with
    | some (digits, rest) => .code digits :: parts rest
    | none => .char c :: parts r
termination_by cs.length
decreasing_by
  · exact length_of_code? ‹_›
  · exact Nat.lt_succ_self _

/-- The character, if it is one. -/
def Part.char? : Part → Option Char
  | code _ => none
  | char c => some c

/-- The characters of the text that stand in no code. -/
def shown (cs : List Char) : List Char := (parts cs).filterMap Part.char?

/-- The text without its codes. -/
def withoutCodes (s : String) : String := String.ofList (shown s.toList)

@[simp] theorem parts_nil : parts [] = [] := by
  rw [parts]

theorem parts_of_code {cs digits rest : List Char} (h : code? cs = some (digits, rest)) :
    parts cs = .code digits :: parts rest := by
  cases cs with
  | nil => cases h
  | cons c r =>
    rw [parts]
    split
    · next h' =>
      rw [h] at h'
      cases h'
      rfl
    · next h' =>
      rw [h] at h'
      cases h'

theorem parts_of_char {c : Char} {r : List Char} (h : code? (c :: r) = none) :
    parts (c :: r) = .char c :: parts r := by
  rw [parts]
  split
  · next h' =>
    rw [h] at h'
    cases h'
  · rfl

theorem code?_of_ne {c : Char} (h : c ≠ '\x1b') (r : List Char) : code? (c :: r) = none := by
  unfold code?
  split
  · next heq =>
    cases heq
    rw [if_neg fun hc => h hc.1]
  · rfl

theorem parts_cons {c : Char} (h : c ≠ '\x1b') (r : List Char) :
    parts (c :: r) = .char c :: parts r :=
  parts_of_char (code?_of_ne h r)

/-- A text without the escape character is read as its characters, whatever stands behind it. -/
theorem parts_plain {cs : List Char} (h : '\x1b' ∉ cs) (rest : List Char) :
    parts (cs ++ rest) = cs.map Part.char ++ parts rest := by
  induction cs with
  | nil => rfl
  | cons c cs ih =>
    rw [List.mem_cons, not_or] at h
    rw [List.cons_append, parts_cons (Ne.symm h.1), ih h.2, List.map_cons, List.cons_append]

theorem parts_of_plain {cs : List Char} (h : '\x1b' ∉ cs) : parts cs = cs.map .char := by
  have hparts := parts_plain h []
  rwa [List.append_nil, parts_nil, List.append_nil] at hparts

/-! ## 2. Reading apart -/

theorem digitsToM?_append {c : Char} (hdigit : c.isDigit = false) (hm : c ≠ 'm')
    (cs rest : List Char) :
    digitsToM? (cs ++ c :: rest) = (digitsToM? cs).map fun p => (p.1, p.2 ++ c :: rest) := by
  induction cs with
  | nil => simp [digitsToM?, hdigit, hm]
  | cons d cs ih =>
    rw [List.cons_append, digitsToM?, digitsToM?, ih]
    split
    · rfl
    · split
      · rw [Option.map_map, Option.map_map]
        rfl
      · rfl

/-- No code goes on with the character. -/
def Apart (c : Char) : Prop := c.isDigit = false ∧ c ∉ ['[', 'm']

instance (c : Char) : Decidable (Apart c) :=
  inferInstanceAs (Decidable (c.isDigit = false ∧ c ∉ ['[', 'm']))

theorem code?_append {c : Char} (hc : Apart c) {cs : List Char} (hcs : cs ≠ [])
    (rest : List Char) :
    code? (cs ++ c :: rest) = (code? cs).map fun p => (p.1, p.2 ++ c :: rest) := by
  obtain ⟨hdigit, hne⟩ := hc
  simp only [List.mem_cons, List.not_mem_nil, not_or] at hne
  match cs with
  | [e] => cases rest <;> simp [code?, hne]
  | [e, b] => simp [code?, hdigit]
  | e :: b :: d :: cs =>
    have hdigits := digitsToM?_append hdigit hne.2.1 (d :: cs) rest
    simp only [List.cons_append] at hdigits ⊢
    rw [code?, code?]
    split
    · exact hdigits
    · rfl

/-- Two texts are read one after the other, if the second begins with such a character. -/
theorem parts_cut {c : Char} (hc : Apart c) (cs rest : List Char) :
    parts (cs ++ c :: rest) = parts cs ++ parts (c :: rest) := by
  induction cs using parts.induct with
  | case1 => rw [parts_nil, List.nil_append, List.nil_append]
  | case2 d r digits behind hcode ih =>
    have hlonger : code? (d :: r ++ c :: rest) = some (digits, behind ++ c :: rest) := by
      rw [code?_append hc (List.cons_ne_nil d r), hcode]
      rfl
    rw [parts_of_code hlonger, parts_of_code hcode, ih, List.cons_append]
  | case3 d r hcode ih =>
    have hlonger : code? (d :: (r ++ c :: rest)) = none := by
      rw [← List.cons_append, code?_append hc (List.cons_ne_nil d r), hcode]
      rfl
    rw [List.cons_append, parts_of_char hlonger, parts_of_char hcode, ih, List.cons_append]

/-- Lines are read one after the other, whatever they say. -/
theorem parts_lines (colour : Bool) (lines : List (List Span)) :
    parts (String.join (lines.map (renderLine colour))).toList =
      lines.flatMap fun line => parts (render colour line).toList ++ [.char '\n'] := by
  induction lines with
  | nil => exact parts_nil
  | cons line lines ih =>
    have htext : (String.join ((line :: lines).map (renderLine colour))).toList =
        (render colour line).toList ++
          '\n' :: (String.join (lines.map (renderLine colour))).toList := by
      simp [String.join_cons, renderLine]
    rw [htext, parts_cut (by decide), parts_cons (by decide), ih, List.flatMap_cons,
      List.append_assoc]
    rfl

/-! ## 3. Styled pieces -/

/-- The code that turns every style off. -/
def reset : Part := .code ['0']

/-- A number as codes have it. -/
def IsNumber (code : String) : Prop :=
  code.toList ≠ [] ∧ ∀ c ∈ code.toList, c.isDigit = true

instance (code : String) : Decidable (IsNumber code) :=
  decidable_of_iff (code.toList ≠ [] ∧ code.toList.all Char.isDigit = true)
    (and_congr_right fun _ => List.all_eq_true)

theorem digitsToM?_digits {digits : List Char} (h : ∀ c ∈ digits, c.isDigit = true)
    (rest : List Char) : digitsToM? (digits ++ 'm' :: rest) = some (digits, rest) := by
  induction digits with
  | nil => rfl
  | cons d digits ih =>
    obtain ⟨hd, hdigits⟩ := List.forall_mem_cons.mp h
    have hne : d ≠ 'm' := by
      rintro rfl
      cases hd
    rw [List.cons_append, digitsToM?, if_neg hne, if_pos hd, ih hdigits]
    rfl

/-- A control sequence is read as one code. -/
theorem parts_control {code : String} (h : IsNumber code) (rest : List Char) :
    parts ((control code).toList ++ rest) = .code code.toList :: parts rest := by
  obtain ⟨hne, hdigits⟩ := h
  have hcode : code? ((control code).toList ++ rest) = some (code.toList, rest) := by
    have hread := digitsToM?_digits hdigits rest
    obtain ⟨d, ds, hlist⟩ := List.exists_cons_of_ne_nil hne
    rw [hlist] at hread hdigits
    simpa [control, hlist, code?, hdigits d List.mem_cons_self] using hread
  exact parts_of_code hcode

theorem isNumber_of_mem_codes {style : Style} {code : String} (h : code ∈ style.codes) :
    IsNumber code := by
  have hall : ∀ style : Style, ∀ code ∈ style.codes, IsNumber code := by
    intro style
    cases style <;> decide
  exact hall style code h

theorem parts_controls {codes : List String} (h : ∀ code ∈ codes, IsNumber code)
    (rest : List Char) :
    parts ((String.join (codes.map control)).toList ++ rest) =
      codes.map (fun code => .code code.toList) ++ parts rest := by
  induction codes with
  | nil => rfl
  | cons code codes ih =>
    obtain ⟨hcode, hcodes⟩ := List.forall_mem_cons.mp h
    rw [List.map_cons, String.join_cons, String.toList_append, List.append_assoc,
      parts_control hcode, ih hcodes, List.map_cons, List.cons_append]

/-- The parts that a piece in colour is put together from. -/
def Span.parts (s : Span) : List Part :=
  if s.style = .plain then s.text.toList.map .char
  else s.style.codes.map (fun code => .code code.toList) ++ (s.text.toList.map .char ++ [reset])

/-- None of the pieces says something with an escape character in it. -/
def Clean (spans : List Span) : Prop := ∀ s ∈ spans, '\x1b' ∉ s.text.toList

theorem parts_span {s : Span} (h : '\x1b' ∉ s.text.toList) (rest : List Char) :
    Text.parts ((s.render true).toList ++ rest) = s.parts ++ Text.parts rest := by
  unfold Span.render Span.parts
  by_cases hplain : s.style = .plain
  · rw [if_neg fun hstyled => hstyled.2 hplain, if_pos hplain, parts_plain h]
  · rw [if_pos ⟨rfl, hplain⟩, if_neg hplain, String.toList_append, String.toList_append,
      List.append_assoc, List.append_assoc, parts_controls fun _ => isNumber_of_mem_codes,
      parts_plain h, parts_control (by decide)]
    simp [reset]

/-- Pieces in colour are read as they were put together, whatever stands behind them. -/
theorem parts_render {spans : List Span} (h : Clean spans) (rest : List Char) :
    parts ((render true spans).toList ++ rest) = spans.flatMap Span.parts ++ parts rest := by
  induction spans with
  | nil => rfl
  | cons s spans ih =>
    obtain ⟨hs, hspans⟩ := List.forall_mem_cons.mp h
    have htext : (render true (s :: spans)).toList ++ rest =
        (s.render true).toList ++ ((render true spans).toList ++ rest) := by
      simp [render, String.join_cons]
    rw [htext, parts_span hs, ih hspans, List.flatMap_cons, List.append_assoc]

theorem parts_render_false {spans : List Span} (h : Clean spans) (rest : List Char) :
    parts ((render false spans).toList ++ rest) =
      (spans.flatMap fun s => s.text.toList.map Part.char) ++ parts rest := by
  induction spans with
  | nil => rfl
  | cons s spans ih =>
    obtain ⟨hs, hspans⟩ := List.forall_mem_cons.mp h
    have htext : (render false (s :: spans)).toList ++ rest =
        s.text.toList ++ ((render false spans).toList ++ rest) := by
      simp [render, String.join_cons]
    rw [htext, parts_plain hs, ih hspans, List.flatMap_cons, List.append_assoc]

/-! ## 4. What is shown -/

theorem filterMap_chars (cs : List Char) : (cs.map Part.char).filterMap Part.char? = cs := by
  rw [List.filterMap_map]
  exact List.filterMap_some

/-- A text without the escape character has no codes. -/
theorem shown_plain {cs : List Char} (h : '\x1b' ∉ cs) : shown cs = cs := by
  rw [shown, parts_of_plain h, filterMap_chars]

theorem char?_parts (s : Span) : s.parts.filterMap Part.char? = s.text.toList := by
  have hcodes :
      (s.style.codes.map fun code => Part.code code.toList).filterMap Part.char? = [] := by
    rw [List.filterMap_map, List.filterMap_eq_nil_iff]
    exact fun _ _ => rfl
  unfold Span.parts
  split
  · exact filterMap_chars _
  · rw [List.filterMap_append, List.filterMap_append, hcodes, filterMap_chars]
    exact List.append_nil _

/-- Pieces show their texts, in colour or not, and then what stands behind them. -/
theorem shown_render {spans : List Span} (h : Clean spans) (colour : Bool) (rest : List Char) :
    shown ((render colour spans).toList ++ rest) =
      (spans.flatMap fun s => s.text.toList) ++ shown rest := by
  cases colour with
  | true =>
    rw [shown, parts_render h, List.filterMap_append, List.filterMap_flatMap]
    simp only [char?_parts]
    rfl
  | false =>
    rw [shown, parts_render_false h, List.filterMap_append, List.filterMap_flatMap]
    simp only [filterMap_chars]
    rfl

/-- If every line shows the same in colour and without, all of them do. -/
theorem shown_lines {lines : List (List Span)}
    (h : ∀ line ∈ lines, shown (render true line).toList = shown (render false line).toList) :
    shown (String.join (lines.map (renderLine true))).toList =
      shown (String.join (lines.map (renderLine false))).toList := by
  rw [shown, shown, parts_lines, parts_lines, List.filterMap_flatMap, List.filterMap_flatMap]
  refine List.flatMap_congr fun line hline => ?_
  rw [List.filterMap_append, List.filterMap_append]
  exact congrArg (· ++ ['\n']) (h line hline)

/-- Without colour, lines have no escape character that no piece brings. -/
theorem escape_notMem_lines {lines : List (List Span)} (h : ∀ line ∈ lines, Clean line) :
    '\x1b' ∉ (String.join (lines.map (renderLine false))).toList := by
  rw [String.toList_join, List.flatMap_map, List.mem_flatMap]
  rintro ⟨line, hline, hmem⟩
  rw [renderLine, String.toList_append, List.mem_append] at hmem
  obtain hmem | hend := hmem
  · rw [render, String.toList_join, List.flatMap_map, List.mem_flatMap] at hmem
    obtain ⟨s, hs, hmem⟩ := hmem
    rw [Span.render_false] at hmem
    exact h line hline s hs hmem
  · exact absurd hend (by decide)

/-! ## 5. Stretches of colour -/

/-- Every code is followed by its reset before the next code and before the next line feed, and no
reset stands alone. -/
inductive Bracketed : List Part → Prop
  | nil : Bracketed []
  | char {c : Char} {ps : List Part} : Bracketed ps → Bracketed (.char c :: ps)
  | stretch {digits inside : List Char} {ps : List Part} :
      .code digits ≠ reset → '\n' ∉ inside → Bracketed ps →
      Bracketed (.code digits :: (inside.map .char ++ reset :: ps))

theorem Bracketed.append {ps qs : List Part} (h : Bracketed ps) (h' : Bracketed qs) :
    Bracketed (ps ++ qs) := by
  induction h with
  | nil => exact h'
  | char _ ih => exact .char ih
  | @stretch digits inside ps hcode hinside _ ih =>
    rw [List.cons_append, List.append_assoc]
    exact .stretch hcode hinside ih

theorem bracketed_chars (cs : List Char) : Bracketed (cs.map .char) := by
  induction cs with
  | nil => exact .nil
  | cons c cs ih => exact .char ih

theorem bracketed_flatMap {α : Type} {f : α → List Part} {as : List α}
    (h : ∀ a ∈ as, Bracketed (f a)) : Bracketed (as.flatMap f) := by
  induction as with
  | nil => exact .nil
  | cons a as ih =>
    obtain ⟨ha, has⟩ := List.forall_mem_cons.mp h
    rw [List.flatMap_cons]
    exact ha.append (ih has)

/-- The piece says nothing with an escape character in it; if it has a style at all, this has one
code, and what is shown in it is on one line. -/
structure Span.Tidy (s : Span) : Prop where
  escape_notMem : '\x1b' ∉ s.text.toList
  plain_or_oneCode : s.style = .plain ∨ s.style.codes.length = 1 ∧ '\n' ∉ s.text.toList

theorem clean_of_tidy {spans : List Span} (h : ∀ s ∈ spans, s.Tidy) : Clean spans :=
  fun s hs => (h s hs).escape_notMem

theorem code_ne_reset {style : Style} {code : String} (h : code ∈ style.codes) :
    .code code.toList ≠ reset := by
  have hall : ∀ style : Style, ∀ code ∈ style.codes, Part.code code.toList ≠ reset := by
    intro style
    cases style <;> decide +kernel
  exact hall style code h

theorem Span.Tidy.bracketed {s : Span} (h : s.Tidy) : Bracketed s.parts := by
  unfold Span.parts
  obtain hplain | ⟨hcodes, hline⟩ := h.plain_or_oneCode
  · rw [if_pos hplain]
    exact bracketed_chars _
  · split
    · exact bracketed_chars _
    · obtain ⟨code, hcode⟩ := List.length_eq_one_iff.mp hcodes
      have hopening : .code code.toList ≠ reset := code_ne_reset (hcode ▸ List.mem_cons_self)
      rw [hcode]
      exact .stretch hopening hline .nil

/-- Lines of such pieces are well bracketed. -/
theorem bracketed_lines {lines : List (List Span)} (h : ∀ line ∈ lines, ∀ s ∈ line, s.Tidy) :
    Bracketed (parts (String.join (lines.map (renderLine true))).toList) := by
  rw [parts_lines]
  refine bracketed_flatMap fun line hline => .append ?_ (.char .nil)
  have hparts := parts_render (clean_of_tidy (h line hline)) []
  rw [List.append_nil, parts_nil, List.append_nil] at hparts
  rw [hparts]
  exact bracketed_flatMap fun s hs => (h line hline s hs).bracketed

/-- Whether a code is on behind a part, if it is known whether one was on before. -/
def Part.turns (on : Bool) : Part → Bool
  | code digits => code digits ≠ reset
  | char _ => on

/-- Whether a text leaves a code on: whether the last code in it, if there is one, is no reset. -/
def leavesOn (cs : List Char) : Bool := (parts cs).foldl Part.turns false

/-- A text without the escape character turns nothing on. -/
theorem leavesOn_plain {cs : List Char} (h : '\x1b' ∉ cs) : leavesOn cs = false := by
  rw [leavesOn, parts_of_plain h, List.foldl_map]
  exact List.foldl_fixed cs

/-- Behind a reset and a space only the text itself can turn something on, whatever was on. -/
theorem leavesOn_behind_reset (front text : List Char) :
    leavesOn (front ++ ((control "0").toList ++ ' ' :: text)) = leavesOn text := by
  have hreset : parts ((control "0").toList ++ ' ' :: text) =
      reset :: .char ' ' :: parts text := by
    rw [parts_control (by decide), parts_cons (by decide)]
    rfl
  have hcut : parts (front ++ ((control "0").toList ++ ' ' :: text)) =
      parts front ++ parts ((control "0").toList ++ ' ' :: text) :=
    parts_cut (c := '\x1b') (by decide) front _
  have hoff : ∀ on, Part.turns on reset = false := fun on => by simp [Part.turns, reset]
  rw [leavesOn, hcut, hreset, List.foldl_append, List.foldl_cons, hoff]
  rfl

end TidyTree.Text
