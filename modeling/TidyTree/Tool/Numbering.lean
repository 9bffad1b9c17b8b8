/-
TidyTree.Tool.Numbering — numbering lines.

A text may be divided into pages by lines of their own, and a page into
a head, a body and a foot, each with its own way to choose the lines
that get numbers.
-/
import TidyTree.Regex.Reader
import TidyTree.Tool.Lines

namespace TidyTree.Tool

open Shell

/-- Which lines get numbers. -/
inductive NumberedLines where
  | all
  | filled
  | none
  | fitting (r : Regex)

/-- The parts of a page. -/
inductive PagePart where
  | head | body | foot
deriving DecidableEq

/-- How lines are numbered. -/
structure Numbering where
  head : NumberedLines
  body : NumberedLines
  foot : NumberedLines
  first : Int
  increment : Int
  /-- How many empty lines count as one. -/
  joined : Nat
  layout : String
  separator : String
  width : Nat
  restarts : Bool
  /-- Two characters of which the lines that divide pages are made. -/
  mark : List Char

/-- Where one is in a text. -/
structure NumberingState where
  part : PagePart
  number : Int
  /-- How many empty lines came in a row, with one for the start. -/
  blanks : Nat
  done : List String

namespace Numbering

/-- The part of a page that a line begins, if it divides pages. -/
def partOf? (n : Numbering) (line : String) : Option PagePart :=
  let cs := line.toList
  if n.mark.isEmpty then Option.none
  else if cs = n.mark ++ n.mark ++ n.mark then some .head
  else if cs = n.mark ++ n.mark then some .body
  else if cs = n.mark then some .foot
  else Option.none

/-- A number as it stands in front of a line. -/
def numberText (n : Numbering) (number : Int) : String :=
  let s := toString number
  let gap := n.width - s.length
  if n.layout = "ln" then s ++ Spec.repeated gap ' '
  else if n.layout = "rz" then
    if number < 0 then "-" ++ Spec.repeated gap '0' ++ toString number.natAbs
    else Spec.repeated gap '0' ++ s
  else Spec.repeated gap ' ' ++ s

/-- Goes on by a line. -/
def line (n : Numbering) (st : NumberingState) (l : String) : NumberingState :=
  match n.partOf? l with
  | some part =>
    { st with part, number := if n.restarts then n.first else st.number, done := "\n" :: st.done }
  | Option.none =>
    let counted (st : NumberingState) : NumberingState :=
      { st with number := st.number + n.increment,
                done := (n.numberText st.number ++ n.separator ++ l ++ "\n") :: st.done }
    let plain (st : NumberingState) : NumberingState :=
      { st with done := (Spec.repeated (n.width + n.separator.length) ' ' ++ l ++ "\n") :: st.done }
    match (match st.part with
      | .head => n.head
      | .body => n.body
      | .foot => n.foot) with
    | .all =>
      if 1 < n.joined then
        if l ≠ "" ∨ st.blanks = n.joined then counted { st with blanks := 1 }
        else plain { st with blanks := st.blanks + 1 }
      else counted st
    | .filled => if l ≠ "" then counted st else plain st
    | .none => plain st
    | .fitting r =>
      if (r.find? ⟨l.toList.toArray, false, false⟩ 0).isSome then counted st else plain st

end Numbering

/-- Which lines a text asks to be numbered. -/
def numberedLines (part value : String) : Act NumberedLines := do
  match value.toList with
  | 'a' :: _ => return .all
  | 't' :: _ => return .filled
  | 'n' :: _ => return .none
  | 'p' :: cs =>
    match Regex.ofText ⟨false, true⟩ cs with
    | .ok (r, _) => return .fitting r
    | .error e => refuse 1 e.message
  | _ => refuseUse 1 ("invalid " ++ part ++ " numbering style: " ++ quoted value)

/-- Numbers lines. -/
def nl (args : List String) : Act Nat := do
  let table := ((OptionTable.letters "p" "bdfhilnsvw").withFlags [("no-renumber", "p")]).withValues
    [("body-numbering", "b"), ("section-delimiter", "d"), ("footer-numbering", "f"),
      ("header-numbering", "h"), ("line-increment", "i"), ("join-blank-lines", "l"),
      ("number-format", "n"), ("number-separator", "s"), ("starting-line-number", "v"),
      ("number-width", "w")]
  let g ← given table 1 args
  let lines (key part preset : String) : Act NumberedLines :=
    numberedLines part ((g.value? key).getD preset)
  let number (key what : String) (least : Option Nat) (preset : Int) : Act Int := do
    match g.value? key with
    | Option.none => return preset
    | some v =>
      match v.toInt? with
      | Option.none => refuse 1 ("invalid " ++ what ++ ": " ++ quoted v)
      | some n =>
        if least.any fun m => n < m then
          refuse 1 ("invalid " ++ what ++ ": " ++ quoted v ++ ": Numerical result out of range")
        else return n
  let layout := (g.value? "n").getD "rn"
  if ¬ ["ln", "rn", "rz"].contains layout then
    refuseUse 1 ("invalid line numbering format: " ++ quoted layout)
  let first ← number "v" "starting line number" Option.none 1
  let n : Numbering := {
    head := ← lines "h" "header" "n"
    body := ← lines "b" "body" "t"
    foot := ← lines "f" "footer" "n"
    first
    increment := ← number "i" "line number increment" Option.none 1
    joined := (← number "l" "line number of blank lines" (some 1) 1).toNat
    layout
    separator := (g.value? "s").getD "\t"
    width := (← number "w" "line number field width" (some 1) 6).toNat
    restarts := !g.has "p"
    mark := match (g.value? "d").map String.toList with
      | Option.none => ['\\', ':']
      | some [c] => [c, ':']
      | some cs => cs }
  let (text, status) ← allInput g.operands
  let st := (Tool.lines text).foldl n.line ⟨.body, first, 1, []⟩
  print (String.join st.done.reverse)
  return status

end TidyTree.Tool
