/-
TidyTree.Json.Failure — why a JSON text could not be read, and where.

A failure knows its cause and how many bytes of the text lie after the
place it is about.  Line and column come from that count and the whole
text (`position`); columns count bytes, and lines end with a line feed.
-/
import TidyTree.Text.Quoted

namespace TidyTree.Json

/-! ## 1. Causes -/

/-- A value found where another sort of value was expected. -/
inductive Found where
  | null
  | boolean (b : Bool)
  | integer (n : Int)
  | float (digits : String)
  | string (s : String)
  | sequence
  | map
deriving DecidableEq, Repr

/-- What the value is called. -/
def Found.text : Found → String
  | null => "null"
  | boolean b => "boolean `" ++ (if b then "true" else "false") ++ "`"
  | integer n => "integer `" ++ toString n ++ "`"
  | float digits => "floating point `" ++ digits ++ "`"
  | string s => "string " ++ Text.quoted s
  | sequence => "sequence"
  | map => "map"

/-- What is wrong with a text. -/
inductive Cause where
  | endInList
  | endInObject
  | endInString
  | endInValue
  | expectedColon
  | expectedListCommaOrEnd
  | expectedObjectCommaOrEnd
  | expectedIdent
  | expectedValue
  | invalidEscape
  | invalidNumber
  | numberOutOfRange
  | controlCharacter
  | keyMustBeString
  | loneSurrogate
  | unpairedSurrogate
  | trailingComma
  | trailingCharacters
  | duplicateField (name : String)
  | invalidType (found : Found) (expected : String)
deriving DecidableEq, Repr

/-- What a cause says about the text: it is not JSON, it is JSON of another shape than the one
asked for, or it stops too early. -/
inductive Category where
  | malformed
  | mismatched
  | truncated
deriving DecidableEq, Repr

namespace Cause

/-- The category of a cause. -/
def category : Cause → Category
  | endInList | endInObject | endInString | endInValue => .truncated
  | duplicateField _ | invalidType _ _ => .mismatched
  | _ => .malformed

/-- What the cause is called. -/
def text : Cause → String
  | endInList => "EOF while parsing a list"
  | endInObject => "EOF while parsing an object"
  | endInString => "EOF while parsing a string"
  | endInValue => "EOF while parsing a value"
  | expectedColon => "expected `:`"
  | expectedListCommaOrEnd => "expected `,` or `]`"
  | expectedObjectCommaOrEnd => "expected `,` or `\x7d`"
  | expectedIdent => "expected ident"
  | expectedValue => "expected value"
  | invalidEscape => "invalid escape"
  | invalidNumber => "invalid number"
  | numberOutOfRange => "number out of range"
  | controlCharacter => "control character (\\u0000-\\u001F) found while parsing a string"
  | keyMustBeString => "key must be a string"
  | loneSurrogate => "lone leading surrogate in hex escape"
  | unpairedSurrogate => "unexpected end of hex escape"
  | trailingComma => "trailing comma"
  | trailingCharacters => "trailing characters"
  | duplicateField name => "duplicate field `" ++ name ++ "`"
  | invalidType found expected => "invalid type: " ++ found.text ++ ", expected " ++ expected

end Cause

/-! ## 2. Places -/

/-- How many bytes the characters take in UTF-8. -/
def byteLength : List Char → Nat
  | [] => 0
  | c :: cs => c.utf8Size + byteLength cs

/-- A failure: its cause, and the bytes of the text after the place it is about. -/
structure Failure where
  cause : Cause
  left : Nat
deriving DecidableEq, Repr

namespace Failure

/-- A failure just before the characters `rest`. -/
def before (cause : Cause) (rest : List Char) : Failure := ⟨cause, byteLength rest⟩

/-- A failure one byte into the characters `rest`, or at their end if there are none. -/
def into (cause : Cause) (rest : List Char) : Failure := ⟨cause, byteLength rest - 1⟩

end Failure

/-- The line, from 1, and the column, from 0, of the place `offset` bytes into the text, where
`line` and `column` are those of its first character. -/
def placeFrom : List Char → (offset line column : Nat) → Nat × Nat
  | [], _, line, column => (line, column)
  | c :: cs, offset, line, column =>
    if offset < c.utf8Size then (line, column + offset)
    else if c = '\n' then placeFrom cs (offset - 1) (line + 1) 0
    else placeFrom cs (offset - c.utf8Size) line (column + c.utf8Size)

/-- The line and the column of a failure in its text. -/
def Failure.place (f : Failure) (text : String) : Nat × Nat :=
  placeFrom text.toList (byteLength text.toList - f.left) 1 0

/-- What the failure is called, with its place in the text. -/
def Failure.message (f : Failure) (text : String) : String :=
  let (line, column) := f.place text
  f.cause.text ++ " at line " ++ toString line ++ " column " ++ toString column

end TidyTree.Json
