/-
TidyTree.Proofs.Summary.Lines — a plain report read back line by line.

Without colour every piece of a report stands for itself, so as long as
no error holds a line feed the report falls apart into just the lines it
was put together from (`pieces_text`).  An error may still look like a
label, a marker or any other line.  The reader of this module does not
look for labels: he knows a line by its place, and by its place how much
of its front is not content (`read`).  So nothing an error says misleads
him, and a report says all that a summary holds but for what its errors
are besides their texts.
-/
import Mathlib.Data.List.Basic
import TidyTree.Proofs.Summary.Reading

namespace TidyTree.Report

/-! ## 1. Lines -/

/-- The pieces of a text between line feeds. -/
def pieces (text : String) : List String := (text.toList.splitOn '\n').map String.ofList

/-- A text made of lines falls apart into them; nothing is behind the last line feed. -/
theorem pieces_join {lines : List String} (h : ∀ line ∈ lines, '\n' ∉ line.toList) :
    pieces (String.join (lines.map (· ++ "\n"))) = lines ++ [""] := by
  induction lines with
  | nil => rfl
  | cons line lines ih =>
    obtain ⟨hline, hlines⟩ := List.forall_mem_cons.mp h
    have hlist : (String.join ((line :: lines).map (· ++ "\n"))).toList =
        line.toList ++ '\n' :: (String.join (lines.map (· ++ "\n"))).toList := by
      simp [String.join_cons]
    rw [pieces, hlist, List.splitOn_append_cons_self_of_not_mem hline, List.map_cons,
      String.ofList_toList]
    exact congrArg (line :: ·) (ih hlines)

/-- The lines of a report without colour. -/
def plainLines (s : Summary) (elapsed : Duration) : List String :=
  ["", "Formatting Complete",
    "Files found: " ++ toString s.discovered,
    "Files formatted: " ++ toString s.formatted,
    "Files failed: " ++ toString s.failed.length,
    "Time elapsed: " ++ (elapsed.text ++ " seconds")] ++
  s.failed.map fun e => "  - " ++ e.text

theorem renderLine_false (line : List Text.Span) :
    Text.renderLine false line = String.join (line.map (·.text)) ++ "\n" := by
  rw [Text.renderLine, Text.render, List.map_congr_left fun s _ => Text.Span.render_false s]

theorem text_eq_join (s : Summary) (elapsed : Duration) :
    s.text elapsed false = String.join ((plainLines s elapsed).map (· ++ "\n")) := by
  have hlines : (s.lines elapsed).map (fun line => String.join (line.map (·.text))) =
      plainLines s elapsed := by
    simp [Summary.lines, Summary.labelled, plainLines, String.join_cons, ← String.append_assoc]
  rw [Summary.text, List.map_congr_left fun line _ => renderLine_false line, ← hlines, List.map_map]
  rfl

theorem newline_notMem_append {front back : String} (h : '\n' ∉ front.toList)
    (h' : '\n' ∉ back.toList) : '\n' ∉ (front ++ back).toList := by
  rw [String.toList_append, List.mem_append, not_or]
  exact ⟨h, h'⟩

/-- Without colour a report falls apart into its lines. -/
theorem pieces_text {s : Summary} (hs : ∀ e ∈ s.failed, '\n' ∉ e.text.toList)
    (elapsed : Duration) : pieces (s.text elapsed false) = plainLines s elapsed ++ [""] := by
  have htime : '\n' ∉ ("Time elapsed: " ++ (elapsed.text ++ " seconds")).toList :=
    newline_notMem_append (by decide)
      (newline_notMem_append (notMem_fixed (by decide) (by decide) _ _ _) (by decide))
  have hlines : ∀ line ∈ plainLines s elapsed, '\n' ∉ line.toList := by
    rw [plainLines, List.forall_mem_append, List.forall_mem_map]
    refine ⟨?_, fun e he => newline_notMem_append (by decide) (hs e he)⟩
    simp only [List.forall_mem_cons]
    exact ⟨by decide, by decide, newline_notMem_append (by decide) (notMem_toString (by decide) _),
      newline_notMem_append (by decide) (notMem_toString (by decide) _),
      newline_notMem_append (by decide) (notMem_toString (by decide) _), htime,
      List.forall_mem_nil _⟩
  rw [text_eq_join, pieces_join hlines]

/-! ## 2. Reading -/

/-- What a report says. -/
structure Contents where
  discovered : Nat
  formatted : Nat
  failures : Nat
  isClean : Bool
  elapsed : String
  errors : List String
deriving DecidableEq, Repr

/-- What the report of a summary has to say. -/
def Contents.of (s : Summary) (elapsed : Duration) : Contents :=
  ⟨s.discovered, s.formatted, s.failed.length, s.isClean, elapsed.text, s.failed.map (·.text)⟩

/-- What is behind the front of a line. -/
def behind (front line : String) : Option String :=
  (line.toList.dropPrefix? front.toList).map String.ofList

/-- The number behind the front of a line. -/
def numberBehind (front line : String) : Option Nat := do
  let digits := (← behind front line).toList
  if !digits.isEmpty && digits.all Char.isDigit then some (Nat.ofDigitChars 10 digits 0) else none

/-- What is between the front and the back of a line. -/
def between (front back line : String) : Option String := do
  let inside := (← behind front line).toList.dropSuffix? back.toList
  inside.map String.ofList

/-- Reads a report by the places of its lines. -/
def read (text : String) : Option Contents :=
  match pieces text with
  | _ :: _ :: found :: formatted :: failed :: time :: rest => do
    let failures ← numberBehind "Files failed: " failed
    return {
      discovered := ← numberBehind "Files found: " found
      formatted := ← numberBehind "Files formatted: " formatted
      failures := failures
      isClean := failures = 0
      elapsed := ← between "Time elapsed: " " seconds" time
      errors := ← rest.dropLast.mapM (behind "  - ") }
  | _ => none

theorem behind_append (front line : String) : behind front (front ++ line) = some line := by
  rw [behind, String.toList_append, List.dropPrefix?_append_of_beq _ (beq_self_eq_true _),
    Option.map_some, String.ofList_toList]

theorem numberBehind_append (front : String) (n : Nat) :
    numberBehind front (front ++ toString n) = some n := by
  have hdigits : (!(toString n).toList.isEmpty && (toString n).toList.all Char.isDigit) = true := by
    rw [Bool.and_eq_true, Bool.not_eq_true', List.isEmpty_eq_false_iff, List.all_eq_true]
    exact ⟨digits_ne_nil n, fun c => isDigit_of_mem_toString⟩
  rw [numberBehind, behind_append]
  simp only [Option.bind_eq_bind, Option.bind_some, if_pos hdigits, ofDigitChars_toString]

theorem between_append (front back line : String) :
    between front back (front ++ (line ++ back)) = some line := by
  have hback : (line ++ back).toList.dropSuffix? back.toList = some line.toList :=
    List.dropSuffix?_eq_some_iff.mpr ⟨back.toList, String.toList_append, beq_self_eq_true _⟩
  rw [between, behind_append]
  simp only [Option.bind_eq_bind, Option.bind_some, hback, Option.map_some, String.ofList_toList]

theorem mapM_behind (front : String) (lines : List String) :
    (lines.map (front ++ ·)).mapM (behind front) = some lines := by
  induction lines with
  | nil => rfl
  | cons line lines ih =>
    rw [List.map_cons, List.mapM_cons, behind_append, ih]
    rfl

/-- Reading a report gives what it has to say. -/
theorem read_text {s : Summary} (hs : ∀ e ∈ s.failed, '\n' ∉ e.text.toList) (elapsed : Duration) :
    read (s.text elapsed false) = some (.of s elapsed) := by
  have hrest : ((s.failed.map fun e => "  - " ++ e.text) ++ [""]).dropLast =
      (s.failed.map (·.text)).map ("  - " ++ ·) := by
    rw [List.dropLast_concat, List.map_map]
    rfl
  have hclean : decide (s.failed.length = 0) = s.isClean := by
    rw [Summary.isClean, Bool.eq_iff_iff, decide_eq_true_iff, List.length_eq_zero_iff,
      List.isEmpty_iff]
  rw [read, pieces_text hs, plainLines]
  simp only [List.cons_append, List.nil_append, numberBehind_append, between_append, hrest,
    mapM_behind, Option.bind_eq_bind, Option.bind_some, hclean]
  rfl

/-! ## 3. What a report determines -/

/-- **Plain reports can be read back.**  If no error of a summary holds a line feed, its report
without colour falls apart at line feeds into an empty line, the title, four labelled lines and one
line for each error, and a reader gets back from it both counts, the number of failures, whether
there are none, the time and the texts of the errors in their order, whatever these texts look like.
So two such reports are the same exactly if all of these are. -/
theorem plain_text_read_back {s : Summary} (hs : ∀ e ∈ s.failed, '\n' ∉ e.text.toList)
    (elapsed : Duration) :
    pieces (s.text elapsed false) = plainLines s elapsed ++ [""] ∧
    read (s.text elapsed false) = some (.of s elapsed) ∧
    ∀ (s' : Summary) (elapsed' : Duration), (∀ e ∈ s'.failed, '\n' ∉ e.text.toList) →
      (s.text elapsed false = s'.text elapsed' false ↔
        s.discovered = s'.discovered ∧ s.formatted = s'.formatted ∧
          s.failed.length = s'.failed.length ∧ s.isClean = s'.isClean ∧
          elapsed.text = elapsed'.text ∧ s.failed.map (·.text) = s'.failed.map (·.text)) := by
  refine ⟨pieces_text hs elapsed, read_text hs elapsed, fun s' elapsed' hs' =>
    ⟨fun htext => ?_, ?_⟩⟩
  · have hread := read_text hs elapsed
    rw [htext, read_text hs' elapsed', Option.some.injEq] at hread
    simpa only [Contents.of, Contents.mk.injEq] using hread.symm
  · rintro ⟨hdiscovered, hformatted, hnumber, -, helapsed, herrors⟩
    have hentries : s.failed.map (fun e => "  - " ++ e.text) =
        s'.failed.map fun e => "  - " ++ e.text := by
      have h := congrArg (List.map ("  - " ++ ·)) herrors
      rwa [List.map_map, List.map_map] at h
    rw [text_eq_join, text_eq_join, plainLines, plainLines, hdiscovered, hformatted, hnumber,
      helapsed, hentries]

/-- A summary that does not add up, with errors that look like lines of a report. -/
def sampleMisleading : Summary :=
  ⟨2 ^ 64 - 1, 7, [.failed "Files found: 3" "  - a.h" (.exit 1),
    .spawn "indent" "Files failed: 0" (.os .noEntry)]⟩

/-- In the example everything is read back, and the errors in another order make another report. -/
theorem sample_read_back :
    (∀ e ∈ sampleMisleading.failed, '\n' ∉ e.text.toList) ∧
    read (sampleMisleading.text ⟨1, 500000000⟩ false) = some
      ⟨18446744073709551615, 7, 2, false, "1.50",
        ["Files found: 3 failed on   - a.h (exit status: 1)",
          "failed to run indent on Files failed: 0: No such file or directory (os error 2)"]⟩ ∧
    sampleMisleading.text ⟨1, 500000000⟩ false ≠
      ({ sampleMisleading with failed := sampleMisleading.failed.reverse } : Summary).text
        ⟨1, 500000000⟩ false := by
  have hs : ∀ e ∈ sampleMisleading.failed, '\n' ∉ e.text.toList := by decide +kernel
  obtain ⟨-, hread, hsame⟩ := plain_text_read_back hs ⟨1, 500000000⟩
  refine ⟨hs, hread.trans (by decide +kernel), fun heq => ?_⟩
  obtain ⟨-, -, -, -, -, herrors⟩ :=
    (hsame _ _ fun e he => hs e (List.mem_reverse.mp he)).mp heq
  revert herrors
  decide +kernel

/-- With line feeds in its errors a report may belong to two summaries. -/
example :
    let early : List FormatError :=
      [.failed "x" "a (exit status: 1)\n  - x failed on b" (.exit 1), .failed "x" "c" (.exit 1)]
    let late : List FormatError :=
      [.failed "x" "a" (.exit 1), .failed "x" "b (exit status: 1)\n  - x failed on c" (.exit 1)]
    (⟨2, 0, early⟩ : Summary).text ⟨0, 0⟩ false = (⟨2, 0, late⟩ : Summary).text ⟨0, 0⟩ false := by
  decide +kernel

end TidyTree.Report
