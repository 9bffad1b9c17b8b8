/-
TidyTree.Tool.Edit.Escape — what backslashes mean in editing scripts.

Letters and numbers behind a backslash stand for characters.  What a
backslash means apart from that depends on where it is: in an
expression, in a replacement or in a text.
-/
import TidyTree.Tool.Edit.Script

namespace TidyTree.Tool.Edit

/-! ## 1. Characters -/

/-- The value of a digit. -/
def digitValue (c : Char) : Nat :=
  if c.isDigit then c.toNat - 48 else c.toLower.toNat - 87

/-- Whether a character is a digit to a base of at most sixteen. -/
def isDigitTo (base : Nat) (c : Char) : Bool := CharClass.xdigit.has c && digitValue c < base

/-- The character that a number of at most so many digits stands for, and what follows it. -/
def numbered? (base most : Nat) (cs : List Char) : Option (Char × List Char) :=
  let ds := (cs.take most).takeWhile (isDigitTo base)
  if ds.isEmpty then none
  else
    some (Char.ofNat (ds.foldl (fun n d => n * base + digitValue d) 0 % 256), cs.drop ds.length)

/-- The character that something behind a backslash stands for, and what follows it. -/
def escape? : List Char → Option (Char × List Char)
  | 'a' :: cs => some ('\x07', cs)
  | 'f' :: cs => some ('\x0c', cs)
  | 'r' :: cs => some ('\r', cs)
  | 't' :: cs => some ('\t', cs)
  | 'v' :: cs => some ('\x0b', cs)
  | 'd' :: cs => numbered? 10 3 cs
  | 'o' :: cs => numbered? 8 3 cs
  | 'x' :: cs => numbered? 16 2 cs
  | ['c'] => some ('\\', [])
  | 'c' :: '\\' :: '\\' :: cs => some ('\x1c', cs)
  | 'c' :: c :: cs => some (Char.ofNat (c.toUpper.toNat ^^^ 64), cs)
  | _ => none

/-! ## 2. Expressions and texts -/

/-- An expression in which characters stand for what was written with a backslash. -/
def plainRegex : (fuel : Nat) → List Char → List Char
  | 0, cs => cs
  | _ + 1, [] => []
  | fuel + 1, '\\' :: cs =>
    match escape? cs with
    | some (c, rest) => c :: plainRegex fuel rest
    | none => '\\' :: cs.take 1 ++ plainRegex fuel (cs.drop 1)
  | fuel + 1, c :: cs => c :: plainRegex fuel cs

/-- A text in which no backslash has a meaning any more. -/
def plainText : (fuel : Nat) → List Char → List Char
  | 0, cs => cs
  | _ + 1, [] => []
  | _ + 1, ['\\'] => ['\\']
  | fuel + 1, '\\' :: c :: cs =>
    match escape? (c :: cs) with
    | some (d, rest) => d :: plainText fuel rest
    | none => (if c = 'n' then '\n' else c) :: plainText fuel cs
  | fuel + 1, c :: cs => c :: plainText fuel cs

/-! ## 3. Replacements -/

/-- How letters are changed from some place in a replacement on. -/
structure Lettering where
  letters : LetterCase
  first : Option LetterCase

/-- The pieces of a replacement; `text` was read before, the last character first. -/
def piecesFrom : (fuel : Nat) → Lettering → (text : List Char) → List Char → List Piece
  | 0, _, _, _ => []
  | _ + 1, l, text, [] =>
    if text.isEmpty then [] else [⟨String.ofList text.reverse, none, l.letters, l.first⟩]
  | fuel + 1, l, text, c :: cs =>
    let piece (group : Option Nat) : Piece :=
      ⟨String.ofList text.reverse, group, l.letters, l.first⟩
    let after : Lettering := { l with first := none }
    let turn (next : Lettering) (cs : List Char) : List Piece :=
      if text.isEmpty then piecesFrom fuel next [] cs
      else piece none :: piecesFrom fuel next [] cs
    match c, cs with
    | '&', _ => piece (some 0) :: piecesFrom fuel after [] cs
    | '\\', [] => piecesFrom fuel l ('\\' :: text) []
    | '\\', d :: rest =>
      match escape? (d :: rest) with
      | some (e, rest) => piecesFrom fuel l (e :: text) rest
      | none =>
        if d.isDigit then piece (some (d.toNat - 48)) :: piecesFrom fuel after [] rest
        else
          match d with
          | 'L' => turn ⟨.lower, none⟩ rest
          | 'U' => turn ⟨.upper, none⟩ rest
          | 'E' => turn ⟨.kept, none⟩ rest
          | 'l' => turn ⟨l.letters, some .lower⟩ rest
          | 'u' => turn ⟨l.letters, some .upper⟩ rest
          | 'n' => piecesFrom fuel l ('\n' :: text) rest
          | _ => piecesFrom fuel l (d :: text) rest
    | _, _ => piecesFrom fuel l (c :: text) cs

/-- The pieces of a replacement. -/
def piecesOf (cs : List Char) : List Piece := piecesFrom (cs.length + 1) ⟨.kept, none⟩ [] cs

/-! ## 4. Letters for letters -/

/-- The characters of one side of an exchange. -/
def exchanged : List Char → List Char
  | [] => []
  | ['\\'] => ['\\']
  | '\\' :: 'n' :: cs => '\n' :: exchanged cs
  | '\\' :: c :: cs => c :: exchanged cs
  | c :: cs => c :: exchanged cs

/-- Characters for which a backslash was written as they are, backslashes kept apart. -/
def unescaped : (fuel : Nat) → List Char → List Char
  | 0, cs => cs
  | _ + 1, [] => []
  | fuel + 1, '\\' :: cs =>
    match escape? cs with
    | some ('\\', rest) => '\\' :: '\\' :: unescaped fuel rest
    | some (c, rest) => c :: unescaped fuel rest
    | none => '\\' :: cs.take 1 ++ unescaped fuel (cs.drop 1)
  | fuel + 1, c :: cs => c :: unescaped fuel cs

end TidyTree.Tool.Edit
