/-
TidyTree.Shell.Pattern — patterns for names.

In a pattern a star stands for any text, a question mark for any
character and brackets for one of some characters, unless they are
quoted.  `Glob.ofText` reads a pattern and `fits` compares.
-/
import TidyTree.Text.CharClass

namespace TidyTree.Shell

/-- A character with a mark that says whether it was quoted. -/
abbrev Quotable := Char × Bool

/-! ## 1. Patterns -/

/-- A part of a pattern. -/
inductive Glob where
  | exactly (c : Char)
  | any
  | star
  | oneOf (negated : Bool) (members : List Member)
deriving DecidableEq, Repr

/-- Reads the members of a bracket up to its end; gives what follows it too. -/
def bracket : (fuel : Nat) → (atStart : Bool) → List Member → List Quotable →
    Option (List Member × List Quotable)
  | 0, _, _, _ => none
  | _ + 1, _, _, [] => none
  | fuel + 1, atStart, done, (c, q) :: cs =>
    if c = ']' ∧ q = false ∧ atStart = false then some (done, cs)
    else
      let class? :=
        if c = '[' ∧ q = false then
          match cs with
          | (':', false) :: more => CharClass.ofFront? (more.map (·.1))
          | _ => none
        else none
      match class? with
      | some (k, n) => bracket fuel false (.kind k :: done) (cs.drop (n + 1))
      | none =>
        match cs with
        | ('-', false) :: (d, dq) :: more =>
          if d = ']' ∧ dq = false then bracket fuel false (.range c c :: done) cs
          else bracket fuel false (.range c d :: done) more
        | _ => bracket fuel false (.range c c :: done) cs

/-- A backslash outside quotes quotes the next character. -/
def resolveBackslashes : List Quotable → List Quotable
  | ('\\', false) :: (c, _) :: cs => (c, true) :: resolveBackslashes cs
  | c :: cs => c :: resolveBackslashes cs
  | [] => []

/-- Reads a pattern.  A bracket that is not closed stands for itself. -/
def globFrom : (fuel : Nat) → List Quotable → List Glob
  | 0, _ => []
  | _ + 1, [] => []
  | fuel + 1, (c, q) :: cs =>
    if q then .exactly c :: globFrom fuel cs
    else if c = '*' then .star :: globFrom fuel cs
    else if c = '?' then .any :: globFrom fuel cs
    else if c = '[' then
      let (negated, inside) :=
        match cs with
        | ('!', false) :: more => (true, more)
        | _ => (false, cs)
      match bracket (inside.length + 1) true [] inside with
      | some (members, rest) => .oneOf negated members :: globFrom fuel rest
      | none => .exactly '[' :: globFrom fuel cs
    else .exactly c :: globFrom fuel cs

/-- The pattern of a text. -/
def Glob.ofText (cs : List Quotable) : List Glob :=
  globFrom (cs.length + 1) (resolveBackslashes cs)

/-- Whether a test holds for some end of a text. -/
def anyEnd (test : List Char → Bool) : List Char → Bool
  | [] => test []
  | c :: cs => test (c :: cs) || anyEnd test cs

/-- Whether a text fits a pattern. -/
def fits : List Glob → List Char → Bool
  | [], cs => cs.isEmpty
  | .star :: gs, cs => anyEnd (fits gs) cs
  | .any :: gs, cs => match cs with
    | [] => false
    | _ :: rest => fits gs rest
  | .exactly c :: gs, cs => match cs with
    | [] => false
    | d :: rest => c = d && fits gs rest
  | .oneOf negated members :: gs, cs => match cs with
    | [] => false
    | d :: rest => (members.any (·.has d) != negated) && fits gs rest

/-- Whether the text is a pattern that can stand for others. -/
def isPattern (cs : List Quotable) : Bool :=
  (Glob.ofText cs).any fun
    | .exactly _ => false
    | _ => true

end TidyTree.Shell
