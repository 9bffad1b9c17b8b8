/-
TidyTree.Regex.Basic — regular expressions and where they fit.

`Regex.ends` gives, for a spot in a text, all spots up to which an
expression fits from there, the farthest first.  Of the ways to reach
one spot only the first is kept, which is the one on which the parts to
the left reach farthest, so that the answer is the longest of the
leftmost ones.  With back-references two spots are the same only if the
groups are.
-/
import TidyTree.Text.CharClass

namespace TidyTree

/-! ## 1. Expressions -/

/-- A regular expression. -/
inductive Regex where
  | empty
  | any
  | one (c : Char)
  | oneOf (negated : Bool) (members : List Member)
  | lineStart
  | lineEnd
  | textStart
  | textEnd
  | wordStart
  | wordEnd
  /-- Between a word and something else, or not. -/
  | wordEdge (there : Bool)
  | group (n : Nat) (r : Regex)
  /-- The text of a group once more. -/
  | again (n : Nat)
  | sequence (a b : Regex)
  | either (a b : Regex)
  | repeated (least : Nat) (most : Option Nat) (r : Regex)
deriving Repr

/-- A text that is searched. -/
structure Subject where
  text : Array Char
  ignoreCase : Bool
  /-- Whether lines begin and end at line ends within the text, so that only a line end itself fits
  one. -/
  multiline : Bool

/-- A spot in a text with the groups that were found so far, as their beginnings and ends. -/
structure Hit where
  place : Nat
  groups : List (Nat × Nat × Nat)
deriving DecidableEq, Repr

namespace Regex

/-! ## 2. Characters -/

/-- Whether the character belongs to a word. -/
def isWordChar (c : Char) : Bool := c.isAlphanum || c = '_'

/-- The character in the form in which it is compared. -/
def folded (x : Subject) (c : Char) : Char := if x.ignoreCase then c.toLower else c

/-- Whether one of the members has the character. -/
def anyHas (x : Subject) (members : List Member) (c : Char) : Bool :=
  members.any (·.has c) || (x.ignoreCase && members.any fun m => m.has c.toLower || m.has c.toUpper)

/-- Whether the character is one of the members, or none of them. -/
def isOneOf (x : Subject) (negated : Bool) (members : List Member) (c : Char) : Bool :=
  anyHas x members c != negated && !(x.multiline && negated && c = '\n')

/-- Whether there is a word right before the place. -/
def wordBefore (x : Subject) (place : Nat) : Bool :=
  place ≠ 0 && ((x.text[place - 1]?).map isWordChar).getD false

/-- Whether there is a word right behind the place. -/
def wordBehind (x : Subject) (place : Nat) : Bool :=
  ((x.text[place]?).map isWordChar).getD false

/-- Whether the place is the beginning of a line. -/
def atLineStart (x : Subject) (place : Nat) : Bool :=
  place = 0 || (x.multiline && x.text[place - 1]? = some '\n')

/-- Whether the place is the end of a line. -/
def atLineEnd (x : Subject) (place : Nat) : Bool :=
  place = x.text.size || (x.multiline && x.text[place]? = some '\n')

/-- For an expression for one character, the test on characters. -/
def test? (x : Subject) : Regex → Option (Char → Bool)
  | any => some fun c => !(x.multiline && c = '\n')
  | one c => some fun d => folded x c = folded x d
  | oneOf negated members => some (isOneOf x negated members)
  | _ => none

/-! ## 3. Ends -/

/-- Whether an expression refers to a group. -/
def refersBack : Regex → Bool
  | again _ => true
  | group _ r => r.refersBack
  | sequence a b => a.refersBack || b.refersBack
  | either a b => a.refersBack || b.refersBack
  | repeated _ _ r => r.refersBack
  | _ => false

/-- Keeps the first of equal hits; those at one place are equal unless the groups count. -/
def distinct (exact : Bool) : (seen : List Hit) → List Hit → List Hit
  | _, [] => []
  | seen, h :: hs =>
    if seen.any fun s => s.place = h.place && (!exact || s = h) then distinct exact seen hs
    else h :: distinct exact (h :: seen) hs

/-- The farthest hits first, each once. -/
def ordered (exact : Bool) (hs : List Hit) : List Hit :=
  distinct exact [] (hs.mergeSort fun a b => b.place ≤ a.place)

/-- All hits that any number of steps lead to. -/
def reach (exact : Bool) (step : Hit → List Hit) : (fuel : Nat) → List Hit → List Hit → List Hit
  | 0, _, seen => seen
  | _, [], seen => seen
  | fuel + 1, h :: hs, seen =>
    if seen.any fun s => s.place = h.place && (!exact || s = h) then reach exact step fuel hs seen
    else
      let next := (step h).filter fun n => h.place < n.place
      reach exact step fuel (next ++ hs) (h :: seen)

/-- The hits that exactly so many steps lead to. -/
def steps (exact : Bool) (step : Hit → List Hit) : (count : Nat) → List Hit → List Hit
  | 0, hs => hs
  | count + 1, hs =>
    let next := ordered exact (hs.flatMap step)
    if next = hs then hs else steps exact step count next

/-- The hits that at most so many steps lead to. -/
def upTo (exact : Bool) (step : Hit → List Hit) : (count : Nat) → List Hit → List Hit
  | 0, hs => hs
  | count + 1, hs =>
    let next := ordered exact (hs.flatMap step ++ hs)
    if next.length = hs.length then hs else upTo exact step count next

/-- How many characters in a row pass a test, at most `limit`. -/
def runLength (text : Array Char) (test : Char → Bool) : (limit : Nat) → (place : Nat) → Nat
  | 0, _ => 0
  | limit + 1, place =>
    match text[place]? with
    | some c => if test c then runLength text test limit (place + 1) + 1 else 0
    | none => 0

/-- Where an expression fits from a spot on. -/
def ends (x : Subject) (exact : Bool) : Regex → Hit → List Hit
  | empty => fun h => [h]
  | any => fun h =>
    match x.text[h.place]? with
    | some d => if x.multiline && d = '\n' then [] else [{ h with place := h.place + 1 }]
    | none => []
  | one c => fun h =>
    match x.text[h.place]? with
    | some d => if folded x c = folded x d then [{ h with place := h.place + 1 }] else []
    | none => []
  | oneOf negated members => fun h =>
    match x.text[h.place]? with
    | some d => if isOneOf x negated members d then [{ h with place := h.place + 1 }] else []
    | none => []
  | lineStart => fun h => if atLineStart x h.place then [h] else []
  | lineEnd => fun h => if atLineEnd x h.place then [h] else []
  | textStart => fun h => if h.place = 0 then [h] else []
  | textEnd => fun h => if h.place = x.text.size then [h] else []
  | wordStart => fun h => if !wordBefore x h.place && wordBehind x h.place then [h] else []
  | wordEnd => fun h => if wordBefore x h.place && !wordBehind x h.place then [h] else []
  | wordEdge there => fun h =>
    if (wordBefore x h.place != wordBehind x h.place) = there then [h] else []
  | group n r => fun h =>
    (ends x exact r h).map fun e =>
      { e with groups := (n, h.place, e.place) :: e.groups.filter fun g => g.1 ≠ n }
  | again n => fun h =>
    match h.groups.lookup n with
    | none => []
    | some (first, last) =>
      let same := (List.range (last - first)).all fun i =>
        match x.text[first + i]?, x.text[h.place + i]? with
        | some c, some d => folded x c = folded x d
        | _, _ => false
      if same then [{ h with place := h.place + (last - first) }] else []
  | sequence a b => fun h => ordered exact ((ends x exact a h).flatMap (ends x exact b))
  | either a b => fun h => ordered exact (ends x exact a h ++ ends x exact b h)
  | repeated least most r => fun h =>
    match r.test? x with
    | some test =>
      let limit := most.getD x.text.size
      let longest := runLength x.text test (min limit (x.text.size - h.place)) h.place
      ((List.range (longest + 1 - least)).map fun i => { h with place := h.place + longest - i })
    | none =>
      let begun := steps exact (ends x exact r) least [h]
      match most with
      | some n => ordered exact (upTo exact (ends x exact r) (n - least) begun)
      | none =>
        let size := x.text.size + 2
        ordered exact (begun.flatMap fun b =>
          (reach exact (ends x exact r) (size * size) [b] []).reverse)

/-! ## 4. Searching -/

/-- Where an expression was found. -/
structure Found where
  first : Nat
  last : Nat
  groups : List (Nat × Nat × Nat)
deriving DecidableEq, Repr

/-- The longest text that an expression fits from a place on. -/
def fitAt? (r : Regex) (x : Subject) (place : Nat) : Option Found :=
  ((r.ends x r.refersBack ⟨place, []⟩).head?).map fun h => ⟨place, h.place, h.groups⟩

/-- Looks for an expression from a place on, in at most `count` places. -/
def findFrom (r : Regex) (x : Subject) : (count : Nat) → (place : Nat) → Option Found
  | 0, _ => none
  | count + 1, place =>
    match r.fitAt? x place with
    | some f => some f
    | none => findFrom r x count (place + 1)

/-- Looks for an expression from a place on. -/
def find? (r : Regex) (x : Subject) (place : Nat) : Option Found :=
  findFrom r x (x.text.size + 1 - place) place

/-- The text of a group, none if the group was not needed; the whole is group zero. -/
def Found.group (f : Found) (x : Subject) (n : Nat) : List Char :=
  let (first, last) := if n = 0 then (f.first, f.last) else (f.groups.lookup n).getD (0, 0)
  (x.text.extract first last).toList

end Regex

end TidyTree
