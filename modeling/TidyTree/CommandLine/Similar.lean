/-
TidyTree.CommandLine.Similar — which of some words is most like a given
one.

The likeness of two words is their Jaro similarity: the share of
characters that they have in common at nearly the same place, less for
those that stand in another order.
-/

namespace TidyTree.CommandLine

/-- Finds in `b` the first place from `low` up to `high` that holds `c` and is not yet taken. -/
def freePlace (c : Char) (b : List (Char × Bool)) (low high : Nat) : Option Nat :=
  (List.range b.length).find? fun i =>
    low ≤ i && i < high && (match b[i]? with
      | some (d, taken) => d = c && !taken
      | none => false)

/-- Gives each character of `a`, counted from place `i`, a place in `b` that holds the same
character at a distance of at most `range` and is not taken; returns the places in the order of
`a`. -/
def pairUp (range : Nat) : (i : Nat) → (a : List Char) → (b : List (Char × Bool)) → List Nat
  | _, [], _ => []
  | i, c :: cs, b =>
    match freePlace c b (i - range) (i + range + 1) with
    | some j =>
      j :: pairUp range (i + 1) cs
        (b.mapIdx fun k (d, taken) => (d, taken || k = j))
    | none => pairUp range (i + 1) cs b

/-- The Jaro similarity of two words, from 0 to 1. -/
def similarity (a b : String) : Float :=
  let as := a.toList
  let bs := b.toList
  let la := as.length
  let lb := bs.length
  if la = 0 ∧ lb = 0 then 1.0
  else if la = 0 ∨ lb = 0 then 0.0
  else
    let places := pairUp (max la lb / 2 - 1) 0 as (bs.map (·, false))
    let m := places.length
    if m = 0 then 0.0
    else
      let inA := places.filterMap fun j => bs[j]?
      let inB := (places.mergeSort (· ≤ ·)).filterMap fun j => bs[j]?
      let moved := ((inA.zip inB).filter fun (c, d) => c ≠ d).length / 2
      let x := m.toFloat
      (x / la.toFloat + x / lb.toFloat + (x - moved.toFloat) / x) / 3.0

/-- The word most like the given one, if its similarity is above 0.7; of equally similar ones the
last. -/
def mostSimilar (words : List String) (given : String) : Option String :=
  let scored := (words.map fun w => (w, similarity given w)).filter fun (_, s) => s > 0.7
  (scored.foldl (fun (best : Option (String × Float)) w =>
    match best with
    | some b => if w.2 < b.2 then some b else some w
    | none => some w) none).map (·.1)

end TidyTree.CommandLine
