/-
TidyTree.Text.Control — a text without its control sequences.

A terminal reads a text as characters to show and control sequences, of
which each begins with the escape character.  `ControlState` is where
it stands in a sequence; the names are those of the usual state diagram
of such terminals.  `withoutControl` keeps what would be shown, and
white space.  A sequence that is cut short by white space ends there; a
new escape character begins a new sequence at any place.
-/

namespace TidyTree.Text

/-- Where a reader of control sequences stands. -/
inductive ControlState where
  /-- Outside any sequence. -/
  | ground
  | escape
  | escapeIntermediate
  | sequenceEntry
  | sequenceParameter
  | sequenceIntermediate
  | sequenceIgnore
  | deviceEntry
  | deviceParameter
  | deviceIntermediate
  | deviceIgnore
  | devicePass
  /-- A command to the operating system, which the bell or a new sequence ends. -/
  | systemCommand
  /-- A text that only a new sequence ends. -/
  | privateText
deriving DecidableEq, Repr

namespace ControlState

/-- The state in a sequence after a byte that a sequence is made of, `0x20` to `0x7e`. -/
def afterPrintable (s : ControlState) (b : Nat) : ControlState :=
  match s with
  | ground => ground
  | escape =>
    if b < 0x30 then escapeIntermediate
    else if b = 0x5b then sequenceEntry
    else if b = 0x5d then systemCommand
    else if b = 0x50 then deviceEntry
    else if b = 0x58 ∨ b = 0x5e ∨ b = 0x5f then privateText
    else ground
  | escapeIntermediate => if b < 0x30 then escapeIntermediate else ground
  | sequenceEntry =>
    if b < 0x30 then sequenceIntermediate else if b < 0x40 then sequenceParameter else ground
  | sequenceParameter =>
    if b < 0x30 then sequenceIntermediate
    else if b < 0x3c then sequenceParameter
    else if b < 0x40 then sequenceIgnore
    else ground
  | sequenceIntermediate =>
    if b < 0x30 then sequenceIntermediate else if b < 0x40 then sequenceIgnore else ground
  | sequenceIgnore => if b < 0x40 then sequenceIgnore else ground
  | deviceEntry =>
    if b < 0x30 then deviceIntermediate
    else if b = 0x3a then deviceIgnore
    else if b < 0x40 then deviceParameter
    else devicePass
  | deviceParameter =>
    if b < 0x30 then deviceIntermediate
    else if b = 0x3a ∨ (0x3c ≤ b ∧ b < 0x40) then deviceIgnore
    else if b < 0x40 then deviceParameter
    else devicePass
  | deviceIntermediate =>
    if b < 0x30 then deviceIntermediate else if b < 0x40 then deviceIgnore else devicePass
  | deviceIgnore => deviceIgnore
  | devicePass => devicePass
  | systemCommand => systemCommand
  | privateText => privateText

/-- Whether white space in this state is shown, which ends the sequence. -/
def showsBlank : ControlState → Bool
  | ground | escape | escapeIntermediate | sequenceEntry | sequenceParameter
  | sequenceIntermediate | sequenceIgnore => true
  | _ => false

/-- Whether the terminator of strings, `0x9c`, ends what is read in this state. -/
def endsAtTerminator : ControlState → Bool
  | deviceIgnore | devicePass | privateText => true
  | _ => false

/-- The state after a character, and whether the character is kept. -/
def step (s : ControlState) (c : Char) : ControlState × Bool :=
  let b := c.toNat
  if b = 0x1b then (escape, false)
  else if b = 0x18 ∨ b = 0x1a then (ground, false)
  else if b = 0x09 ∨ b = 0x0a ∨ b = 0x0c ∨ b = 0x0d then
    if s.showsBlank then (ground, true) else (s, false)
  else if b = 0x07 then (if s = systemCommand then ground else s, false)
  else if b < 0x20 ∨ b = 0x7f then (s, false)
  else if s = ground then (ground, true)
  else if b < 0x7f then (s.afterPrintable b, false)
  else
    let terminated := s.endsAtTerminator && c.toString.toUTF8.toList.contains 0x9c
    (if terminated then ground else s, false)

end ControlState

/-- The characters that are shown, from a state on. -/
def shownFrom : ControlState → List Char → List Char
  | _, [] => []
  | s, c :: cs =>
    let (next, kept) := s.step c
    if kept then c :: shownFrom next cs else shownFrom next cs

/-- The text without control sequences and without control characters other than white space. -/
def withoutControl (s : String) : String := String.ofList (shownFrom .ground s.toList)

end TidyTree.Text
