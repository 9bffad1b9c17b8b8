/-
TidyTree.Summary — the account of one run, and the report made of it.

A summary counts what was found and formatted and keeps the errors in
the order they happened.  `Summary.text` is the report for a reader: a
title, four labelled lines and one line per error, in colour or plain.
The report is built as a list of lines whose pieces carry their style,
so that both renderings come from one description.
-/
import TidyTree.Decimal.Fixed
import TidyTree.FormatError
import TidyTree.Text.Styled

namespace TidyTree

open Text (Span Style renderLine)

/-! ## 1. Time spans -/

/-- A span of time: whole seconds and the nanoseconds beyond them. -/
structure Duration where
  seconds : Nat
  nanos : Nat
deriving DecidableEq, Repr

namespace Duration

/-- The seconds as a double: the nearest double to the whole seconds plus the nearest one to the
fraction, the sum rounded again. -/
def secondsAsDouble (d : Duration) : Decimal.Binary :=
  let round n m := (Decimal.BinaryFormat.double.round n m).getD .zero
  let (n, m) := (round d.seconds 1).add (round d.nanos 1000000000)
  round n m

/-- The seconds with two decimals. -/
def text (d : Duration) : String :=
  let (n, m) := d.secondsAsDouble.ratio
  Decimal.fixed 2 n m

end Duration

/-! ## 2. Summaries -/

/-- What one run came to: how many files were found, how many were formatted, and the errors on
the others in the order they happened. -/
structure Summary where
  discovered : Nat
  formatted : Nat
  failed : List FormatError
deriving DecidableEq, Repr

namespace Summary

/-- The summary of a run that has found `n` files and formatted none yet. -/
def start (n : Nat) : Summary := ⟨n, 0, []⟩

/-- The summary of a run over nothing. -/
def empty : Summary := start 0

/-- Whether no file failed. -/
def isClean (s : Summary) : Bool := s.failed.isEmpty

/-- Takes the outcome on one more file into account. -/
def record (s : Summary) : Except FormatError Unit → Summary
  | .ok () => { s with formatted := s.formatted + 1 }
  | .error e => { s with failed := s.failed ++ [e] }

/-! ## 3. The report -/

/-- The line with a label in green and what it labels. -/
def labelled (label value : String) : List Span := [⟨.green, label⟩, ⟨.plain, " " ++ value⟩]

/-- The lines of the report. -/
def lines (s : Summary) (elapsed : Duration) : List (List Span) :=
  [[],
    [⟨.bold, "Formatting Complete"⟩],
    labelled "Files found:" (toString s.discovered),
    labelled "Files formatted:" (toString s.formatted),
    [⟨if s.isClean then .green else .red, "Files failed:"⟩,
      ⟨.plain, " " ++ toString s.failed.length⟩],
    labelled "Time elapsed:" (elapsed.text ++ " seconds")] ++
  s.failed.map fun e => [⟨.plain, "  "⟩, ⟨.red, "-"⟩, ⟨.plain, " " ++ e.text⟩]

/-- The report as text. -/
def text (s : Summary) (elapsed : Duration) (colour : Bool) : String :=
  String.join ((s.lines elapsed).map (renderLine colour))

end Summary

end TidyTree
