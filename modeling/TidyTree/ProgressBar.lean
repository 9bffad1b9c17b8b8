/-
TidyTree.ProgressBar — a bar that shows how far a run has come.

The bar has a length, a position that wraps at `2 ^ 64`, a message and
a flag that says whether it is finished.  `ProgressBar.line` draws it
on one line, wide enough for any message.
-/
import TidyTree.Decimal.Rounding
import TidyTree.Decimal.Fixed
import TidyTree.Text.Blank

namespace TidyTree

/-! ## 1. The state of a bar -/

/-- A progress bar. -/
structure ProgressBar where
  length : UInt64
  position : UInt64
  message : String
  finished : Bool
deriving DecidableEq, Repr

namespace ProgressBar

/-- A bar of that length at its start. -/
def new (length : UInt64) : ProgressBar := ⟨length, 0, "", false⟩

/-- Replaces the message. -/
def setMessage (b : ProgressBar) (m : String) : ProgressBar := { b with message := m }

/-- Advances the position, which wraps at `2 ^ 64`. -/
def advance (b : ProgressBar) (steps : UInt64) : ProgressBar :=
  { b with position := b.position + steps }

/-- Ends the bar at its full length, with a last message. -/
def finishWith (b : ProgressBar) (m : String) : ProgressBar :=
  { b with position := b.length, message := m, finished := true }

/-- Ends the bar where it is. -/
def abandon (b : ProgressBar) : ProgressBar := { b with finished := true }

/-! ## 2. How full it is -/

/-- How many cells the bar is wide. -/
def width : Nat := 40

/-- The number of the single precision format nearest to a quotient. -/
def single (n d : Nat) : Decimal.Binary := (Decimal.BinaryFormat.single.round n d).getD .zero

/-- The share of the length that is done, between zero and one, in single precision.  A bar of
length zero is full, and one at position zero is empty. -/
def fraction (b : ProgressBar) : Decimal.Binary :=
  if b.length = 0 then ⟨1, 0⟩
  else if b.position = 0 then .zero
  else
    let (n, d) := (single b.position.toNat 1).div (single b.length.toNat 1)
    let share := single n d
    if share.atLeastOne then ⟨1, 0⟩ else share

/-- The cells of the bar: those that are full, whether one is begun, and those that are empty. -/
structure Cells where
  full : Nat
  begun : Bool
  empty : Nat
deriving DecidableEq, Repr

/-- How the cells of the bar are filled. -/
def cells (b : ProgressBar) : Cells :=
  let (n, d) := b.fraction.mul ⟨width, 0⟩
  let fill := single n d
  let full := min fill.floor width
  let begun := fill.significand ≠ 0 ∧ full < width
  ⟨full, begun, width - full - (if begun then 1 else 0)⟩

/-! ## 3. Drawing -/

/-- Hours, minutes and seconds, with the days in front from one day on. -/
def clock (seconds : Nat) : String :=
  let two := Decimal.padded 2
  let days := seconds / 86400
  (if days = 0 then "" else toString days ++ "d ") ++
    two (seconds / 3600 % 24) ++ ":" ++ two (seconds / 60 % 60) ++ ":" ++ two (seconds % 60)

/-- The text with eight spaces for each tab. -/
def expandTabs (s : String) : String :=
  String.join (s.toList.map fun c => if c = '\t' then "        " else c.toString)

/-- The message as it is shown. -/
def shownMessage (b : ProgressBar) : String := expandTabs b.message

/-- The text between the control sequences of a terminal, if colour is on. -/
def paint (colour : Bool) (code text : String) : String :=
  if colour then "\x1b[" ++ code ++ "m" ++ text ++ "\x1b[0m" else text

/-- The same character a number of times. -/
def run (n : Nat) (c : Char) : String := String.ofList (List.replicate n c)

/-- The bar itself: full cells and the begun one in cyan, the empty ones in blue. -/
def track (b : ProgressBar) (colour : Bool) : String :=
  let c := b.cells
  let done := run c.full '#' ++ (if c.begun then ">" else "")
  let rest := run c.empty '-'
  if colour then "\x1b[36m" ++ done ++ paint true "34" rest ++ "\x1b[0m" else done ++ rest

/-- The bar drawn on one line once it is finished, without white space at the end. -/
def line (b : ProgressBar) (elapsed : Nat) (colour : Bool) : String :=
  Text.trimEnd <|
    paint colour "32" " " ++ " [" ++ clock elapsed ++ "] [" ++ b.track colour ++ "] " ++
      toString b.position.toNat ++ "/" ++ toString b.length.toNat ++ " files " ++
      b.shownMessage

end ProgressBar

end TidyTree
