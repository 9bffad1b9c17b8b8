/-
TidyTree.Text.CharClass — classes of characters with names, and what can
stand between brackets in a pattern.

Characters stand for bytes here, and of those only ASCII characters
belong to a class.
-/

namespace TidyTree

/-! ## 1. Classes -/

/-- The classes of characters that have names. -/
inductive CharClass where
  | alnum | alpha | blank | cntrl | digit | graph | lower | print | punct | space | upper | xdigit
deriving DecidableEq, Repr

namespace CharClass

/-- The classes with their names. -/
def all : List (String × CharClass) :=
  [("alnum", alnum), ("alpha", alpha), ("blank", blank), ("cntrl", cntrl), ("digit", digit),
    ("graph", graph), ("lower", lower), ("print", print), ("punct", punct), ("space", space),
    ("upper", upper), ("xdigit", xdigit)]

/-- Whether a byte belongs to the class; only ASCII characters do. -/
def has (k : CharClass) (c : Char) : Bool :=
  let n := c.toNat
  match k with
  | alnum => c.isAlphanum
  | alpha => c.isAlpha
  | blank => c = ' ' || c = '\t'
  | cntrl => n < 32 || n = 127
  | digit => c.isDigit
  | graph => 32 < n && n < 127
  | lower => c.isLower
  | print => 32 ≤ n && n < 127
  | punct => 32 < n && n < 127 && !c.isAlphanum
  | space => n = 32 || (9 ≤ n && n ≤ 13)
  | upper => c.isUpper
  | xdigit => c.isDigit || (65 ≤ n && n ≤ 70) || (97 ≤ n && n ≤ 102)

/-- The class whose name comes next, closed by a colon and a bracket, and what follows it. -/
def ofFront? (cs : List Char) : Option (CharClass × Nat) :=
  (all.find? fun k => (k.1.toList ++ [':', ']']).isPrefixOf cs).map fun k =>
    (k.2, k.1.length + 2)

end CharClass

/-! ## 2. Brackets -/

/-- What stands between brackets. -/
inductive Member where
  | range (first last : Char)
  | kind (k : CharClass)
deriving DecidableEq, Repr

/-- Whether a character is one of those. -/
def Member.has (m : Member) (c : Char) : Bool :=
  match m with
  | range first last => first ≤ c && c ≤ last
  | kind k => k.has c

end TidyTree
