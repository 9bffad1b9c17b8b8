/-
TidyTree.Proofs.Summary.Reading — what a reader finds in a report.

A reader knows the labels and nothing else: he looks for the first
place where a label stands (`cutAt`), reads the number at the end of its
line (`numberAfter`), and takes what is below the last labelled line for
the entries of the failures (`belowLineOf`).  Errors may say anything,
also what looks like a label; they come behind all labels, so he finds
what the summary holds.
-/
import Mathlib.Data.List.Infix
import Mathlib.Data.Nat.Digits.Defs
import TidyTree.Summary

namespace TidyTree.Report

/-! ## 1. Finding a label -/

/-- The text in front of the first place where the label stands, and the text behind it. -/
def cutAt (label : List Char) : List Char → Option (List Char × List Char)
  | [] => none
  | c :: cs =>
    if label <+: c :: cs then some ([], (c :: cs).drop label.length)
    else (cutAt label cs).map fun (front, behind) => (c :: front, behind)

/-- The label does not begin within the text, whatever comes behind. -/
def Clear (label text : List Char) : Prop :=
  ∀ rest, cutAt label (text ++ rest) = (cutAt label rest).map fun p => (text ++ p.1, p.2)

theorem clear_nil (label : List Char) : Clear label [] := by
  intro rest
  simp

theorem Clear.append {label text text' : List Char} (h : Clear label text)
    (h' : Clear label text') : Clear label (text ++ text') := by
  intro rest
  rw [List.append_assoc, h, h', Option.map_map]
  simp [Function.comp_def]

theorem clear_singleton {label : List Char} {c : Char} (h : ∀ rest, ¬ label <+: c :: rest) :
    Clear label [c] := by
  intro rest
  rw [List.singleton_append, cutAt, if_neg (h rest)]
  rfl

/-- A text without the first character of the label is clear of it. -/
theorem clear_of_notMem {c : Char} {label text : List Char} (h : c ∉ text) :
    Clear (c :: label) text := by
  induction text with
  | nil => exact clear_nil _
  | cons d text ih =>
    rw [List.mem_cons, not_or] at h
    have hfirst : Clear (c :: label) [d] := clear_singleton fun rest hprefix =>
      h.1 (List.cons_prefix_cons.mp hprefix).1
    exact hfirst.append (ih h.2)

/-- Another label is clear of it, if the two differ before either ends and only begin alike. -/
theorem clear_label {c : Char} {label other : List Char} (h : ¬ c :: label <+: c :: other)
    (h' : ¬ c :: other <+: c :: label) (hc : c ∉ other) : Clear (c :: label) (c :: other) := by
  intro rest
  have hnot : ¬ c :: label <+: c :: (other ++ rest) := by
    intro hprefix
    rcases List.prefix_or_prefix_of_prefix hprefix
      (List.prefix_append (c :: other) rest) with hlt | hgt
    · exact h hlt
    · exact h' hgt
  rw [List.cons_append, cutAt, if_neg hnot, clear_of_notMem hc, Option.map_map]
  rfl

/-- The label is found where it stands first. -/
theorem cutAt_of_clear {label front : List Char} (hlabel : label ≠ []) (h : Clear label front)
    (behind : List Char) : cutAt label (front ++ (label ++ behind)) = some (front, behind) := by
  rw [h]
  cases label with
  | nil => exact absurd rfl hlabel
  | cons c label =>
    have hprefix : c :: label <+: c :: (label ++ behind) := List.prefix_append _ _
    rw [List.cons_append, cutAt, if_pos hprefix]
    simp

/-! ## 2. Reading a line -/

/-- The number at the end of the line on which the label stands first. -/
def numberAfter (label text : String) : Option Nat :=
  (cutAt label.toList text.toList).bind fun (_, behind) =>
    let line := behind.takeWhile (· ≠ '\n')
    match (line.reverse.takeWhile Char.isDigit).reverse with
    | [] => none
    | digits => some (Nat.ofDigitChars 10 digits 0)

/-- What stands below the line on which the label stands first. -/
def belowLineOf (label text : String) : Option String :=
  (cutAt label.toList text.toList).map fun (_, behind) =>
    String.ofList (behind.dropWhile (· ≠ '\n')).tail

/-- The label, where it stands first, has the control sequence of the code in front. -/
def PaintedIn (code label text : String) : Prop :=
  ∃ front behind, cutAt label.toList text.toList = some (front, behind) ∧
    ("\x1b[" ++ code ++ "m").toList <:+ front

theorem isDigit_of_mem_toString {n : Nat} {c : Char} (h : c ∈ (toString n).toList) :
    c.isDigit = true := by
  rw [Nat.toString_eq_repr, Nat.toList_repr] at h
  exact Nat.isDigit_of_mem_toDigits (by decide) (by decide) h

theorem digits_ne_nil (n : Nat) : (toString n).toList ≠ [] := by
  rw [Nat.toString_eq_repr, Nat.toList_repr]
  exact Nat.toDigits_ne_nil

theorem ofDigitChars_toString (n : Nat) : Nat.ofDigitChars 10 (toString n).toList 0 = n := by
  rw [Nat.toString_eq_repr, Nat.toList_repr]
  exact Nat.ofDigitChars_ten_toDigits

theorem notMem_toString {c : Char} (hc : c.isDigit = false) (n : Nat) :
    c ∉ (toString n).toList := fun h => by
  rw [isDigit_of_mem_toString h] at hc
  cases hc

theorem ne_newline {line : List Char} (h : '\n' ∉ line) :
    ∀ c ∈ line, decide (c ≠ '\n') = true := by
  intro c hc
  refine decide_eq_true fun heq => h ?_
  rwa [← heq]

/-- A line is read up to its end. -/
theorem takeWhile_line {line : List Char} (h : '\n' ∉ line) (rest : List Char) :
    (line ++ '\n' :: rest).takeWhile (· ≠ '\n') = line := by
  rw [List.takeWhile_append_of_pos (ne_newline h)]
  simp

/-- Below a line stands what comes behind its end. -/
theorem tail_dropWhile_line {line : List Char} (h : '\n' ∉ line) (rest : List Char) :
    ((line ++ '\n' :: rest).dropWhile (· ≠ '\n')).tail = rest := by
  rw [List.dropWhile_append_of_pos (ne_newline h)]
  simp

theorem numberAfter_eq {label text : String} {front gap rest : List Char} {n : Nat}
    (hcut : cutAt label.toList text.toList =
      some (front, gap ++ ' ' :: (toString n).toList ++ '\n' :: rest))
    (hgap : '\n' ∉ gap) : numberAfter label text = some n := by
  have hline : '\n' ∉ gap ++ ' ' :: (toString n).toList := by
    rw [List.mem_append, List.mem_cons, not_or, not_or]
    exact ⟨hgap, by decide, notMem_toString (by decide) n⟩
  have hdigits : ((gap ++ ' ' :: (toString n).toList).reverse.takeWhile Char.isDigit).reverse =
      (toString n).toList := by
    rw [List.reverse_append, List.reverse_cons, List.append_assoc,
      List.takeWhile_append_of_pos fun c hc => isDigit_of_mem_toString (List.mem_reverse.mp hc)]
    simp
  rw [numberAfter, hcut]
  dsimp only [Option.bind_some]
  rw [takeWhile_line hline, hdigits]
  split
  · next hnil => exact absurd hnil (digits_ne_nil n)
  · rw [ofDigitChars_toString]

/-! ## 3. The lines of a report -/

open Text (Span Style)

/-- What is in front of a painted text. -/
def opening (colour : Bool) (code : String) : List Char :=
  if colour then ("\x1b[" ++ code ++ "m").toList else []

/-- What is behind a painted text. -/
def closing (colour : Bool) : List Char := if colour then "\x1b[0m".toList else []

/-- The line on which a label stands with something behind it. -/
def labelLine (colour : Bool) (code label value : String) : List Char :=
  opening colour code ++ (label.toList ++ (closing colour ++ ' ' :: value.toList ++ ['\n']))

/-- The line of the title. -/
def titleLine (colour : Bool) : List Char :=
  opening colour "1" ++ ("Formatting Complete".toList ++ (closing colour ++ ['\n']))

/-- The entry of a failure: a marker, the text and the end of the line. -/
def entry (colour : Bool) (text : String) : String :=
  (if colour then "  \x1b[31m-\x1b[0m " else "  - ") ++ text ++ "\n"

/-- A piece in a style of one code. -/
theorem toList_render {style : Style} {code : String} (hcode : style.codes = [code])
    (colour : Bool) (text : String) :
    (Span.render colour ⟨style, text⟩).toList =
      opening colour code ++ (text.toList ++ closing colour) := by
  have hstyle : style ≠ .plain := by
    rintro rfl
    cases hcode
  cases colour with
  | false => simp [Span.render, opening, closing]
  | true => simp [Span.render, opening, closing, hstyle, hcode, Text.control]

/-- The code of the label of the failures. -/
def failedCode (s : Summary) : String := if s.isClean then "32" else "31"

/-- The lines above that of the failures. -/
def aboveFailed (s : Summary) (colour : Bool) : List Char :=
  '\n' :: titleLine colour ++ labelLine colour "32" "Files found:" (toString s.discovered) ++
    labelLine colour "32" "Files formatted:" (toString s.formatted)

/-- The lines above that of the time. -/
def aboveElapsed (s : Summary) (colour : Bool) : List Char :=
  aboveFailed s colour ++
    labelLine colour (failedCode s) "Files failed:" (toString s.failed.length)

/-- The lines above the entries. -/
def header (s : Summary) (elapsed : Duration) (colour : Bool) : List Char :=
  aboveElapsed s colour ++ labelLine colour "32" "Time elapsed:" (elapsed.text ++ " seconds")

theorem render_plain (colour : Bool) (text : String) :
    Span.render colour ⟨.plain, text⟩ = text := by
  simp [Span.render]

theorem toList_renderLine_label {style : Style} {code : String} (hcode : style.codes = [code])
    (colour : Bool) (label value : String) :
    (Text.renderLine colour [⟨style, label⟩, ⟨.plain, " " ++ value⟩]).toList =
      labelLine colour code label value := by
  simp only [Text.renderLine, Text.render, List.map_cons, List.map_nil, String.join_cons,
    String.join_nil, String.toList_append, toList_render hcode, render_plain]
  simp [labelLine]

theorem toList_renderLine_title (colour : Bool) :
    (Text.renderLine colour [⟨.bold, "Formatting Complete"⟩]).toList = titleLine colour := by
  simp only [Text.renderLine, Text.render, List.map_cons, List.map_nil, String.join_cons,
    String.join_nil, String.toList_append, toList_render (show Style.bold.codes = ["1"] from rfl)]
  simp [titleLine]

theorem renderLine_entry (colour : Bool) (text : String) :
    Text.renderLine colour [⟨.plain, "  "⟩, ⟨.red, "-"⟩, ⟨.plain, " " ++ text⟩] =
      entry colour text := by
  rw [← String.toList_inj]
  simp only [Text.renderLine, Text.render, List.map_cons, List.map_nil, String.join_cons,
    String.join_nil, String.toList_append, toList_render (show Style.red.codes = ["31"] from rfl),
    render_plain]
  cases colour <;> simp [entry, opening, closing]

/-- The report is its header with one entry for each failure behind it. -/
theorem toList_text (s : Summary) (elapsed : Duration) (colour : Bool) :
    (s.text elapsed colour).toList =
      header s elapsed colour ++
        (String.join (s.failed.map fun e => entry colour e.text)).toList := by
  have hcode : (if s.isClean then Style.green else Style.red).codes = [failedCode s] := by
    unfold failedCode
    split <;> rfl
  have hentries : (s.failed.map fun e =>
      ([⟨.plain, "  "⟩, ⟨.red, "-"⟩, ⟨.plain, " " ++ e.text⟩] : List Span)).map
        (Text.renderLine colour) = s.failed.map fun e => entry colour e.text := by
    rw [List.map_map]
    exact List.map_congr_left fun e _ => renderLine_entry colour e.text
  rw [Summary.text, Summary.lines, List.map_append, String.join_append, String.toList_append,
    hentries]
  congr 1
  simp only [Summary.labelled, List.map_cons, List.map_nil, String.join_cons, String.join_nil,
    String.toList_append, toList_renderLine_label hcode,
    toList_renderLine_label (show Style.green.codes = ["32"] from rfl), toList_renderLine_title]
  simp [header, aboveElapsed, aboveFailed, Text.renderLine, Text.render]

/-! ## 4. What is found -/

theorem notMem_opening {c : Char} (hc : c = 'F' ∨ c = 'T') (colour : Bool) {code : String}
    (hcode : code ∈ ["1", "31", "32"]) : c ∉ opening colour code := by
  have hall : ∀ colour : Bool, ∀ code ∈ ["1", "31", "32"],
      'F' ∉ opening colour code ∧ 'T' ∉ opening colour code := by decide
  rcases hc with rfl | rfl
  · exact (hall colour code hcode).1
  · exact (hall colour code hcode).2

theorem notMem_closing {c : Char} (hc : c = 'F' ∨ c = 'T') (colour : Bool) :
    c ∉ closing colour := by
  have hall : ∀ colour : Bool, 'F' ∉ closing colour ∧ 'T' ∉ closing colour := by decide
  rcases hc with rfl | rfl
  · exact (hall colour).1
  · exact (hall colour).2

theorem failedCode_mem (s : Summary) : failedCode s ∈ ["1", "31", "32"] := by
  unfold failedCode
  split <;> decide

/-- The first place of a label is in its line, if what is above is clear of it. -/
theorem cutAt_labelLine {colour : Bool} {code label : String} {front : List Char}
    (hlabel : label.toList ≠ []) (hclear : Clear label.toList (front ++ opening colour code))
    (value : String) (rest : List Char) :
    cutAt label.toList (front ++ labelLine colour code label value ++ rest) =
      some (front ++ opening colour code,
        closing colour ++ ' ' :: value.toList ++ '\n' :: rest) := by
  rw [← cutAt_of_clear hlabel hclear]
  simp [labelLine]

theorem newline_notMem_closing (colour : Bool) : '\n' ∉ closing colour := by
  cases colour <;> decide

theorem numberAfter_labelLine {colour : Bool} {code label text : String} {front : List Char}
    {n : Nat} (hlabel : label.toList ≠ [])
    (hclear : Clear label.toList (front ++ opening colour code))
    (htext : front ++ labelLine colour code label (toString n) <+: text.toList) :
    numberAfter label text = some n := by
  obtain ⟨rest, hrest⟩ := htext
  have hcut := cutAt_labelLine hlabel hclear (toString n) rest
  rw [hrest] at hcut
  exact numberAfter_eq hcut (newline_notMem_closing colour)

/-- A line with a number is clear of another label that begins alike. -/
theorem clear_numberLine {colour : Bool} {code : String} (hcode : code ∈ ["1", "31", "32"])
    {label other : List Char} {name : String} (hname : name.toList = 'F' :: other)
    (h : ¬ 'F' :: label <+: 'F' :: other) (h' : ¬ 'F' :: other <+: 'F' :: label)
    (hother : 'F' ∉ other) (n : Nat) :
    Clear ('F' :: label) (labelLine colour code name (toString n)) := by
  refine .append (clear_of_notMem (notMem_opening (Or.inl rfl) colour hcode)) (.append ?_ ?_)
  · rw [hname]
    exact clear_label h h' hother
  · refine clear_of_notMem ?_
    simp only [List.mem_append, List.mem_cons, List.not_mem_nil, not_or]
    exact ⟨⟨notMem_closing (Or.inl rfl) colour, by decide, notMem_toString (by decide) n⟩,
      by decide, not_false⟩

theorem clear_title (colour : Bool) {label : List Char}
    (h : ¬ 'F' :: label <+: "Formatting Complete".toList)
    (h' : ¬ "Formatting Complete".toList <+: 'F' :: label) :
    Clear ('F' :: label) ('\n' :: titleLine colour) := by
  have hopening : Clear ('F' :: label) ('\n' :: opening colour "1") := by
    refine clear_of_notMem ?_
    rw [List.mem_cons, not_or]
    exact ⟨by decide, notMem_opening (Or.inl rfl) colour (by decide)⟩
  refine hopening.append (.append (clear_label h h' (by decide)) (clear_of_notMem ?_))
  rw [List.mem_append, not_or]
  exact ⟨notMem_closing (Or.inl rfl) colour, by decide⟩

section Reading

variable (s : Summary) (elapsed : Duration) (colour : Bool)

/-- The report begins with the lines above that of the failures. -/
theorem begins_aboveFailed : aboveFailed s colour <+: (s.text elapsed colour).toList := by
  rw [toList_text, header, aboveElapsed]
  exact ((List.prefix_append _ _).trans (List.prefix_append _ _)).trans (List.prefix_append _ _)

/-- The number of the files found is read back. -/
theorem numberAfter_found :
    numberAfter "Files found:" (s.text elapsed colour) = some s.discovered := by
  have hclear : Clear "Files found:".toList ('\n' :: titleLine colour ++ opening colour "32") :=
    (clear_title colour (by decide) (by decide)).append
      (clear_of_notMem (notMem_opening (Or.inl rfl) colour (by decide)))
  refine numberAfter_labelLine (by decide) hclear ?_
  exact (List.prefix_append _ _).trans (begins_aboveFailed s elapsed colour)

/-- The number of the files formatted is read back. -/
theorem numberAfter_formatted :
    numberAfter "Files formatted:" (s.text elapsed colour) = some s.formatted := by
  have hclear : Clear "Files formatted:".toList ('\n' :: titleLine colour ++
      labelLine colour "32" "Files found:" (toString s.discovered) ++ opening colour "32") :=
    ((clear_title colour (by decide) (by decide)).append
      (clear_numberLine (by decide) rfl (by decide) (by decide) (by decide) _)).append
      (clear_of_notMem (notMem_opening (Or.inl rfl) colour (by decide)))
  refine numberAfter_labelLine (by decide) hclear ?_
  exact begins_aboveFailed s elapsed colour

theorem clear_aboveFailed :
    Clear "Files failed:".toList (aboveFailed s colour ++ opening colour (failedCode s)) :=
  (((clear_title colour (by decide) (by decide)).append
    (clear_numberLine (by decide) rfl (by decide) (by decide) (by decide) _)).append
    (clear_numberLine (by decide) rfl (by decide) (by decide) (by decide) _)).append
    (clear_of_notMem (notMem_opening (Or.inl rfl) colour (failedCode_mem s)))

theorem begins_aboveElapsed : aboveElapsed s colour <+: (s.text elapsed colour).toList := by
  rw [toList_text, header]
  exact (List.prefix_append _ _).trans (List.prefix_append _ _)

/-- The number of the failures is read back. -/
theorem numberAfter_failed :
    numberAfter "Files failed:" (s.text elapsed colour) = some s.failed.length :=
  numberAfter_labelLine (by decide) (clear_aboveFailed s colour)
    (begins_aboveElapsed s elapsed colour)

/-- With colour, the label of the failures is painted with its code and no other. -/
theorem paintedIn_failed_iff {code : String} (hcode : code ∈ ["31", "32"]) :
    PaintedIn code "Files failed:" (s.text elapsed true) ↔ code = failedCode s := by
  obtain ⟨rest, hrest⟩ := begins_aboveElapsed s elapsed true
  rw [aboveElapsed] at hrest
  have hcut := cutAt_labelLine (by decide) (clear_aboveFailed s true) (toString s.failed.length)
    rest
  rw [hrest] at hcut
  constructor
  · rintro ⟨front, behind, hfound, hsuffix⟩
    rw [hcut, Option.some.injEq, Prod.mk.injEq] at hfound
    obtain ⟨rfl, -⟩ := hfound
    -- Two control sequences of one length at one end are the same.
    have hfailed : failedCode s ∈ ["31", "32"] := by
      unfold failedCode
      split <;> decide
    have hcodes : ∀ code ∈ ["31", "32"], ∀ code' ∈ ["31", "32"],
        ("\x1b[" ++ code ++ "m").toList.length ≤ (opening true code').length ∧
          (("\x1b[" ++ code ++ "m").toList <:+ opening true code' → code = code') := by decide
    obtain ⟨hlength, heq⟩ := hcodes code hcode _ hfailed
    exact heq (List.suffix_of_suffix_length_le hsuffix (List.suffix_append _ _) hlength)
  · rintro rfl
    exact ⟨_, _, hcut, List.suffix_append _ _⟩

/-- With colour, the label of the failures is green if there are none, and red otherwise. -/
theorem paintedIn_green_iff :
    PaintedIn "32" "Files failed:" (s.text elapsed true) ↔ s.failed = [] := by
  rw [paintedIn_failed_iff s elapsed (by decide), failedCode, ← List.isEmpty_iff]
  cases h : s.isClean <;> simp_all [Summary.isClean]

theorem paintedIn_red_iff :
    PaintedIn "31" "Files failed:" (s.text elapsed true) ↔ s.failed ≠ [] := by
  rw [paintedIn_failed_iff s elapsed (by decide), failedCode, ne_eq, ← List.isEmpty_iff]
  cases h : s.isClean <;> simp_all [Summary.isClean]

theorem notMem_labelLine {code label value : String} (hcode : code ∈ ["1", "31", "32"])
    (hlabel : 'T' ∉ label.toList) (hvalue : 'T' ∉ value.toList) :
    'T' ∉ labelLine colour code label value := by
  simp only [labelLine, List.mem_append, List.mem_cons, List.not_mem_nil, not_or]
  exact ⟨notMem_opening (Or.inr rfl) colour hcode, hlabel,
    ⟨notMem_closing (Or.inr rfl) colour, by decide, hvalue⟩, by decide, not_false⟩

theorem notMem_fixed {c : Char} (hc : c.isDigit = false) (hpoint : c ≠ '.') (places n d : Nat) :
    c ∉ (Decimal.fixed places n d).toList := by
  have hzero : c ≠ '0' := by
    rintro rfl
    cases hc
  rw [Decimal.fixed, Decimal.padded]
  simp only [String.toList_append, String.toList_ofList, List.mem_append, not_or]
  refine ⟨⟨notMem_toString hc _, ?_⟩, fun h => ?_, notMem_toString hc _⟩
  · exact fun h => hpoint (List.mem_singleton.mp h)
  · exact hzero (List.eq_of_mem_replicate h)

/-- Below the last label stand the entries. -/
theorem belowLineOf_elapsed :
    belowLineOf "Time elapsed:" (s.text elapsed colour) =
      some (String.join (s.failed.map fun e => entry colour e.text)) := by
  have htitle : ∀ colour, 'T' ∉ '\n' :: titleLine colour := by decide
  have hcount : ∀ n : Nat, 'T' ∉ (toString n).toList := notMem_toString (by decide)
  have hclear : Clear "Time elapsed:".toList (aboveElapsed s colour ++ opening colour "32") := by
    refine clear_of_notMem ?_
    rw [aboveElapsed, aboveFailed]
    simp only [List.mem_append, not_or]
    exact ⟨⟨⟨⟨htitle colour, notMem_labelLine colour (by decide) (by decide) (hcount _)⟩,
      notMem_labelLine colour (by decide) (by decide) (hcount _)⟩,
      notMem_labelLine colour (failedCode_mem s) (by decide) (hcount _)⟩,
      notMem_opening (Or.inr rfl) colour (by decide)⟩
  have hcut := cutAt_labelLine (by decide) hclear (elapsed.text ++ " seconds")
    (String.join (s.failed.map fun e => entry colour e.text)).toList
  have hline : '\n' ∉ closing colour ++ ' ' :: (elapsed.text ++ " seconds").toList := by
    rw [String.toList_append]
    simp only [List.mem_append, List.mem_cons, not_or]
    exact ⟨newline_notMem_closing colour, by decide, notMem_fixed (by decide) (by decide) _ _ _,
      by decide⟩
  rw [belowLineOf, toList_text, header, hcut, Option.map_some]
  dsimp only
  rw [tail_dropWhile_line hline, String.ofList_toList]

end Reading

end TidyTree.Report
