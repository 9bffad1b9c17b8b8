/-
TidyTree.Text.Styled — text with colours.

A piece of text carries its style; whether the style shows is decided
when the text is rendered.  In colour a piece stands between the control
sequences that turn its style on and the one that turns every style
off; without colour it stands for itself.
-/

namespace TidyTree.Text

/-- How a piece of text is shown. -/
inductive Style where
  | plain
  | bold
  | red
  | green
  | yellow
  | boldRed
  | boldUnderlined
deriving DecidableEq, Repr

/-- The numbers that turn the style on, on a terminal. -/
def Style.codes : Style → List String
  | plain => []
  | bold => ["1"]
  | red => ["31"]
  | green => ["32"]
  | yellow => ["33"]
  | boldRed => ["1", "31"]
  | boldUnderlined => ["1", "4"]

/-- The control sequence of a number. -/
def control (code : String) : String := "\x1b[" ++ code ++ "m"

/-- A piece of text with its style. -/
structure Span where
  style : Style
  text : String
deriving DecidableEq, Repr

/-- The text of the piece, between control sequences if colour is on and it has a style. -/
def Span.render (colour : Bool) (s : Span) : String :=
  if colour ∧ s.style ≠ .plain then
    String.join (s.style.codes.map control) ++ s.text ++ control "0"
  else s.text

/-- A row of pieces as text. -/
def render (colour : Bool) (spans : List Span) : String :=
  String.join (spans.map (Span.render colour))

/-- A line of pieces, with its line end. -/
def renderLine (colour : Bool) (line : List Span) : String := render colour line ++ "\n"

/-- Without colour a piece is its text. -/
@[simp] theorem Span.render_false (s : Span) : s.render false = s.text := by
  simp [Span.render]

end TidyTree.Text
