/-
TidyTree.Json.Write — strings as JSON text.

Quote, backslash and the control characters are escaped, the latter in
their short form where they have one; every other character stands for
itself.  `escape` says it for one character, and the text of a string
is the escapes of its characters one after the other between quotes.
-/

namespace TidyTree.Json

/-- A hexadecimal digit in lower case. -/
def hexDigit (n : Nat) : Char := if n < 10 then Char.ofNat (48 + n) else Char.ofNat (87 + n)

/-- How one character is written inside a string. -/
def escape (c : Char) : List Char :=
  if c = '"' then ['\\', '"']
  else if c = '\\' then ['\\', '\\']
  else if c = '\x08' then ['\\', 'b']
  else if c = '\x0c' then ['\\', 'f']
  else if c = '\n' then ['\\', 'n']
  else if c = '\r' then ['\\', 'r']
  else if c = '\t' then ['\\', 't']
  else if c.toNat < 32 then ['\\', 'u', '0', '0', hexDigit (c.toNat / 16), hexDigit (c.toNat % 16)]
  else [c]

/-- The characters of a string between quotes, escaped. -/
def stringChars (s : String) : List Char := '"' :: (s.toList.flatMap escape ++ ['"'])

/-- The parts of a list with a comma between every two of them. -/
def commaSeparated : List (List Char) → List Char
  | [] => []
  | [part] => part
  | part :: parts => part ++ ',' :: commaSeparated parts

/-- A list of strings between brackets. -/
def stringsChars (ss : List String) : List Char :=
  '[' :: (commaSeparated (ss.map stringChars) ++ [']'])

end TidyTree.Json
