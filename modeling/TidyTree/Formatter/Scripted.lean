/-
TidyTree.Formatter.Scripted — a formatter that follows a list of rules.

It starts no program and touches no file.  Its state is the number of
calls it has had; the first rule that applies to a call decides, and a
call to which none applies succeeds.
-/
import TidyTree.Formatter

namespace TidyTree

/-- Whether the characters `part` stand one after the other somewhere in a list. -/
def standsIn (part : List Char) : List Char → Bool
  | [] => part.isEmpty
  | c :: cs => part.isPrefixOf (c :: cs) || standsIn part cs

/-- Whether `part` stands somewhere in `s`. -/
def containsText (s part : String) : Bool := standsIn part.toList s.toList

/-- A rule of a scripted formatter: what the path must contain, which call it must be, and the
error it answers with. -/
structure ScriptRule where
  contains : Option String
  call : Option Nat
  error : Option (String → FormatError)

/-- Whether the rule applies to the call of that number on that path. -/
def ScriptRule.applies (r : ScriptRule) (number : Nat) (path : String) : Bool :=
  r.contains.all (containsText path) && r.call.all (· == number)

/-- The formatter that follows the rules. -/
def scripted (rules : List ScriptRule) : Formatter Nat := fun path calls files =>
  let number := calls + 1
  let outcome : Except FormatError Unit :=
    match rules.find? fun r => r.applies number path with
    | some r => match r.error with
      | some e => .error (e path)
      | none => .ok ()
    | none => .ok ()
  { outcome, signs := [], state := number, files }

end TidyTree
