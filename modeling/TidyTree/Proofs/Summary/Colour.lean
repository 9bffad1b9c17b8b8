/-
TidyTree.Proofs.Summary.Colour — the colour of a report can be taken
away again.

A report in colour and one without show the same characters, since both
are made of the same pieces; the codes are only those of title, labels
and markers.  The texts of errors stand outside all stretches of colour:
in front of each is the reset of its marker, so whatever an error says,
it is in no colour but its own.
-/
import TidyTree.Proofs.Summary.Reading
import TidyTree.Proofs.Text.Codes

namespace TidyTree.Report

open Text

/-! ## 1. The lines of a report -/

theorem tidy_label {style : Style} {label value : String} (hstyle : style.codes.length = 1)
    (hlabel : '\x1b' ∉ label.toList ∧ '\n' ∉ label.toList) (hvalue : '\x1b' ∉ value.toList) :
    ∀ p ∈ ([⟨style, label⟩, ⟨.plain, " " ++ value⟩] : List Span), p.Tidy := by
  refine List.forall_mem_cons.mpr ⟨⟨hlabel.1, Or.inr ⟨hstyle, hlabel.2⟩⟩, ?_⟩
  refine List.forall_mem_singleton.mpr ⟨?_, Or.inl rfl⟩
  rw [String.toList_append, List.mem_append, not_or]
  exact ⟨by decide, hvalue⟩

/-- Every line is made of pieces that are tidy, but for the text of an error at its end. -/
theorem mem_lines {s : Summary} {elapsed : Duration} {line : List Span}
    (h : line ∈ s.lines elapsed) :
    (∀ p ∈ line, p.Tidy) ∨
      ∃ e ∈ s.failed, line = [⟨.plain, "  "⟩, ⟨.red, "-"⟩, ⟨.plain, " " ++ e.text⟩] := by
  have hcount (n : Nat) : '\x1b' ∉ (toString n).toList := notMem_toString (by decide) n
  have htime : '\x1b' ∉ (elapsed.text ++ " seconds").toList := by
    rw [String.toList_append, List.mem_append, not_or]
    exact ⟨notMem_fixed (by decide) (by decide) _ _ _, by decide⟩
  have htitle : ∀ p ∈ ([⟨.bold, "Formatting Complete"⟩] : List Span), p.Tidy :=
    List.forall_mem_singleton.mpr ⟨by decide, Or.inr (by decide)⟩
  have hcode : (if s.isClean then Style.green else Style.red).codes.length = 1 := by
    split <;> rfl
  rw [Summary.lines, List.mem_append, List.mem_map] at h
  obtain hhead | ⟨e, he, heq⟩ := h
  · left
    simp only [List.mem_cons, List.not_mem_nil, or_false] at hhead
    obtain rfl | rfl | rfl | rfl | rfl | rfl := hhead
    · exact List.forall_mem_nil _
    · exact htitle
    · exact tidy_label rfl (by decide) (hcount _)
    · exact tidy_label rfl (by decide) (hcount _)
    · exact tidy_label hcode (by decide) (hcount _)
    · exact tidy_label rfl (by decide) htime
  · exact Or.inr ⟨e, he, heq.symm⟩

/-- A line shows the same in colour and without. -/
theorem shown_line {s : Summary} {elapsed : Duration} {line : List Span}
    (h : line ∈ s.lines elapsed) :
    shown (render true line).toList = shown (render false line).toList := by
  obtain htidy | ⟨e, -, rfl⟩ := mem_lines h
  · have hshown := fun colour => shown_render (clean_of_tidy htidy) colour []
    simp only [List.append_nil] at hshown
    rw [hshown, hshown]
  · -- Behind the marker stands the text of the error, which may hold anything.
    have hmarker : Clean [⟨.plain, "  "⟩, ⟨.red, "-"⟩] := by unfold Clean; decide
    have hline (colour : Bool) :
        (render colour [⟨.plain, "  "⟩, ⟨.red, "-"⟩, ⟨.plain, " " ++ e.text⟩]).toList =
          (render colour [⟨.plain, "  "⟩, ⟨.red, "-"⟩]).toList ++ (" " ++ e.text).toList := by
      simp [render, String.join_cons, render_plain]
    rw [hline, hline, shown_render hmarker, shown_render hmarker]

/-! ## 2. Reports in colour and without -/

/-- In colour and without, a report shows the same. -/
theorem withoutCodes_text (s : Summary) (elapsed : Duration) :
    withoutCodes (s.text elapsed true) = withoutCodes (s.text elapsed false) :=
  congrArg String.ofList (shown_lines fun _ => shown_line)

section Tidy

variable {s : Summary} (h : ∀ e ∈ s.failed, '\x1b' ∉ e.text.toList) (elapsed : Duration)

include h

theorem tidy_lines : ∀ line ∈ s.lines elapsed, ∀ p ∈ line, p.Tidy := by
  intro line hline
  obtain htidy | ⟨e, he, rfl⟩ := mem_lines hline
  · exact htidy
  · have hmarker : (⟨.red, "-"⟩ : Span).Tidy := ⟨by decide, Or.inr (by decide)⟩
    refine List.forall_mem_cons.mpr ⟨⟨by decide, Or.inl rfl⟩, ?_⟩
    refine List.forall_mem_cons.mpr ⟨hmarker, List.forall_mem_singleton.mpr ⟨?_, Or.inl rfl⟩⟩
    rw [String.toList_append, List.mem_append, not_or]
    exact ⟨by decide, h e he⟩

/-- Without its codes a report in colour is the one without colour. -/
theorem withoutCodes_eq_text : withoutCodes (s.text elapsed true) = s.text elapsed false := by
  have hplain : '\x1b' ∉ (s.text elapsed false).toList :=
    escape_notMem_lines fun line hline => clean_of_tidy (tidy_lines h elapsed line hline)
  rw [withoutCodes_text, withoutCodes, shown_plain hplain, String.ofList_toList]

/-- The codes of a report in colour come in pairs. -/
theorem bracketed_text : Bracketed (parts (s.text elapsed true).toList) :=
  bracketed_lines (tidy_lines h elapsed)

end Tidy

/-! ## 3. Around an error -/

/-- What stands in front of the text of an error in its line. -/
def marker (colour : Bool) : String := if colour then "  \x1b[31m-\x1b[0m " else "  - "

/-- What stands in front of the text of an error in a report, if the errors `before` come first. -/
def inFront (s : Summary) (elapsed : Duration) (colour : Bool) (before : List FormatError) :
    String :=
  String.ofList (header s elapsed colour) ++
    (String.join (before.map fun e => entry colour e.text) ++ marker colour)

/-- What stands behind the text of an error in a report, if the errors `after` come then. -/
def behindError (colour : Bool) (after : List FormatError) : String :=
  "\n" ++ String.join (after.map fun e => entry colour e.text)

/-- In a report the text of each error stands unchanged between what is around it. -/
theorem text_eq_around {s : Summary} {before after : List FormatError} {e : FormatError}
    (h : s.failed = before ++ e :: after) (elapsed : Duration) (colour : Bool) :
    s.text elapsed colour =
      inFront s elapsed colour before ++ (e.text ++ behindError colour after) := by
  have hentry : entry colour e.text = marker colour ++ (e.text ++ "\n") := String.append_assoc
  rw [← String.toList_inj, toList_text, h, List.map_append, List.map_cons, String.join_append,
    String.join_cons, hentry, inFront, behindError]
  simp

/-- Where an error is told, nothing is on but what its text turned on. -/
theorem leavesOn_inFront (s : Summary) (elapsed : Duration) (before : List FormatError)
    (said : List Char) :
    leavesOn ((inFront s elapsed true before).toList ++ said) = leavesOn said := by
  have hmarker : (marker true).toList = "  \x1b[31m-".toList ++ ((control "0").toList ++ [' ']) :=
    by decide
  have hfront : (inFront s elapsed true before).toList ++ said =
      (header s elapsed true ++ ((String.join (before.map fun e => entry true e.text)).toList ++
        "  \x1b[31m-".toList)) ++ ((control "0").toList ++ ' ' :: said) := by
    rw [inFront, String.toList_append, String.toList_append, hmarker, String.toList_ofList]
    simp
  rw [hfront, leavesOn_behind_reset]

/-- **Colour can be erased.**  Without its codes a report in colour shows what one without colour
shows; if no error says an escape character, it is just that report, and each of its codes is
followed by its reset before the next code and before the next line feed.  Whatever the errors say,
the text of each stands unchanged in both reports, and no code is on at any place in it that it did
not turn on itself: none at all, if it has no escape character. -/
theorem colour_erasable (s : Summary) (elapsed : Duration) :
    withoutCodes (s.text elapsed true) = withoutCodes (s.text elapsed false) ∧
    ((∀ e ∈ s.failed, '\x1b' ∉ e.text.toList) →
      withoutCodes (s.text elapsed true) = s.text elapsed false ∧
      Bracketed (parts (s.text elapsed true).toList)) ∧
    ∀ before e after, s.failed = before ++ e :: after →
      (∀ colour, s.text elapsed colour =
        inFront s elapsed colour before ++ (e.text ++ behindError colour after)) ∧
      ∀ said, said <+: e.text.toList →
        leavesOn ((inFront s elapsed true before).toList ++ said) = leavesOn said ∧
        ('\x1b' ∉ e.text.toList →
          leavesOn ((inFront s elapsed true before).toList ++ said) = false) := by
  refine ⟨withoutCodes_text s elapsed, fun h => ?_, fun before e after hfailed => ?_⟩
  · exact ⟨withoutCodes_eq_text h elapsed, bracketed_text h elapsed⟩
  · refine ⟨text_eq_around hfailed elapsed, fun said hsaid => ?_⟩
    have hfront := leavesOn_inFront s elapsed before said
    exact ⟨hfront, fun h => hfront.trans (leavesOn_plain fun hmem => h (hsaid.subset hmem))⟩

/-- An error that looks as if it held codes. -/
def sampleLookalike : FormatError := .failed "[31m" "a.h[0m" (.exit 1)

/-- An error that turns a colour on. -/
def samplePainting : FormatError := .failed "x" "\x1b[31mb.h" (.exit 1)

/-- In the example the first error is left as it is when the colour is erased; told behind the
second, which leaves a colour on, it is in no colour all the same. -/
theorem sample_erased :
    let alone : Summary := ⟨2, 1, [sampleLookalike]⟩
    let behind : Summary := ⟨3, 1, [samplePainting, sampleLookalike]⟩
    (∀ e ∈ alone.failed, '\x1b' ∉ e.text.toList) ∧
    withoutCodes (alone.text ⟨1, 500000000⟩ true) =
      "\nFormatting Complete\nFiles found: 2\nFiles formatted: 1\nFiles failed: 1\n" ++
        "Time elapsed: 1.50 seconds\n  - [31m failed on a.h[0m (exit status: 1)\n" ∧
    leavesOn samplePainting.text.toList = true ∧
    ∀ said, said <+: sampleLookalike.text.toList →
      leavesOn ((inFront behind ⟨1, 500000000⟩ true [samplePainting]).toList ++ said) = false := by
  intro alone behind
  have hplain : '\x1b' ∉ sampleLookalike.text.toList := by decide +kernel
  have hclean : ∀ e ∈ alone.failed, '\x1b' ∉ e.text.toList :=
    List.forall_mem_singleton.mpr hplain
  have herased := ((colour_erasable alone ⟨1, 500000000⟩).2.1 hclean).1
  have haround :=
    (colour_erasable behind ⟨1, 500000000⟩).2.2 [samplePainting] sampleLookalike [] rfl
  refine ⟨hclean, herased.trans (by decide +kernel), by decide +kernel, fun said hsaid => ?_⟩
  exact (haround.2 said hsaid).2 hplain

end TidyTree.Report
