/-
TidyTree.Tool.Difference — the lines in which two texts differ.

A shortest way from one text to the other is looked for from both ends at
once, and the texts are divided where the two searches meet.  Of the ways
that are equally short the one is taken that the search meets first, and
runs of changed lines are moved as far down as possible.
-/
import TidyTree.Tool.Options

namespace TidyTree.Tool

/-! ## 1. Meeting in the middle -/

/-- How far a search got on each diagonal; diagonals are counted from the lowest one on. -/
abbrev Reach := Array Int

/-- Two texts as numbers for their lines, equal lines having equal numbers. -/
structure LinePair where
  left : Array Nat
  right : Array Nat

namespace LinePair

/-- Whether two lines are equal. -/
def same (p : LinePair) (x y : Int) : Bool :=
  match p.left[x.toNat]?, p.right[y.toNat]? with
  | some a, some b => a = b
  | _, _ => false

/-- How far equal lines go on from a pair of places. -/
def slideDown (p : LinePair) (xEnd yEnd : Int) : (fuel : Nat) → (x y : Int) → Int
  | 0, x, _ => x
  | fuel + 1, x, y =>
    if x < xEnd && y < yEnd && p.same x y then slideDown p xEnd yEnd fuel (x + 1) (y + 1) else x

/-- How far equal lines go back from a pair of places. -/
def slideUp (p : LinePair) (xStart yStart : Int) : (fuel : Nat) → (x y : Int) → Int
  | 0, x, _ => x
  | fuel + 1, x, y =>
    if xStart < x && yStart < y && p.same (x - 1) (y - 1) then
      slideUp p xStart yStart fuel (x - 1) (y - 1)
    else x

/-- The part of the texts that is searched. -/
structure Window where
  xStart : Int
  xEnd : Int
  yStart : Int
  yEnd : Int

/-- The number of the lowest diagonal, less one. -/
def Window.base (w : Window) : Int := w.xStart - w.yEnd - 2

/-- What a search reached on a diagonal. -/
def reached (r : Reach) (w : Window) (d : Int) : Int := r.getD (d - w.base).toNat 0

/-- Notes what was reached on a diagonal. -/
def note (r : Reach) (w : Window) (d x : Int) : Reach := r.setIfInBounds (d - w.base).toNat x

/-- A search with the diagonals it has come to. -/
structure Front where
  reach : Reach
  low : Int
  high : Int

/-- Goes one step forward on the diagonals from `d` down; the place at which the searches meet, if
they do. -/
def forward (p : LinePair) (w : Window) (odd : Bool) (back : Front) (size : Nat) :
    (count : Nat) → (d : Int) → Reach → Reach × Option (Int × Int)
  | 0, _, r => (r, none)
  | count + 1, d, r =>
    let low := reached r w (d - 1)
    let high := reached r w (d + 1)
    let start := if low < high then high else low + 1
    let x := slideDown p w.xEnd w.yEnd size start (start - d)
    let r := note r w d x
    if odd && back.low ≤ d && d ≤ back.high && reached back.reach w d ≤ x then (r, some (x, x - d))
    else forward p w odd back size count (d - 2) r

/-- Goes one step back on the diagonals from `d` down; the place at which the searches meet, if
they do. -/
def backward (p : LinePair) (w : Window) (odd : Bool) (front : Front) (size : Nat) :
    (count : Nat) → (d : Int) → Reach → Reach × Option (Int × Int)
  | 0, _, r => (r, none)
  | count + 1, d, r =>
    let low := reached r w (d - 1)
    let high := reached r w (d + 1)
    let start := if low < high then low else high - 1
    let x := slideUp p w.xStart w.yStart size start (start - d)
    let r := note r w d x
    if !odd && front.low ≤ d && d ≤ front.high && x ≤ reached front.reach w d then
      (r, some (x, x - d))
    else backward p w odd front size count (d - 2) r

/-- A search that comes to one diagonal more on each side, or to one less where there is none;
`outside` is what counts as reached there. -/
def widen (w : Window) (outside : Int) (f : Front) : Front :=
  let least := w.xStart - w.yEnd
  let greatest := w.xEnd - w.yStart
  let (reach, low) :=
    if least < f.low then (note f.reach w (f.low - 2) outside, f.low - 1) else (f.reach, f.low + 1)
  let (reach, high) :=
    if f.high < greatest then (note reach w (f.high + 2) outside, f.high + 1)
    else (reach, f.high - 1)
  ⟨reach, low, high⟩

/-- Searches until the two searches meet. -/
def meet (p : LinePair) (w : Window) (odd : Bool) (size : Nat) :
    (fuel : Nat) → Front → Front → Int × Int
  | 0, _, _ => (w.xStart, w.yStart)
  | fuel + 1, f, b =>
    let f := widen w (-1) f
    let count := ((f.high - f.low) / 2 + 1).toNat
    match forward p w odd b size count f.high f.reach with
    | (_, some place) => place
    | (reach, none) =>
      let f := { f with reach }
      let b := widen w (w.xEnd + w.yEnd + 10) b
      let count := ((b.high - b.low) / 2 + 1).toNat
      match backward p w odd f size count b.high b.reach with
      | (_, some place) => place
      | (reach, none) => meet p w odd size fuel f { b with reach }

/-- Where to divide the texts. -/
def middle (p : LinePair) (w : Window) : Int × Int :=
  let size := (w.xEnd - w.xStart + (w.yEnd - w.yStart)).toNat + 6
  let blank : Reach := Array.replicate size 0
  let start := w.xStart - w.yStart
  let stop := w.xEnd - w.yEnd
  meet p w ((start - stop) % 2 ≠ 0) size size ⟨note blank w start w.xStart, start, start⟩
    ⟨note blank w stop w.xEnd, stop, stop⟩

/-! ## 2. Changed lines -/

/-- The places from one up to another. -/
def places (first last : Int) : List Nat :=
  (List.range (last - first).toNat).map fun i => first.toNat + i

/-- The places of the lines that are only in the one text and only in the other. -/
def changes (p : LinePair) : (fuel : Nat) → Window → List Nat × List Nat
  | 0, w => (places w.xStart w.xEnd, places w.yStart w.yEnd)
  | fuel + 1, w =>
    let size := p.left.size + p.right.size + 1
    let x := slideDown p w.xEnd w.yEnd size w.xStart w.yStart
    let w := { w with xStart := x, yStart := w.yStart + (x - w.xStart) }
    let x := slideUp p w.xStart w.yStart size w.xEnd w.yEnd
    let w := { w with xEnd := x, yEnd := w.yEnd - (w.xEnd - x) }
    if w.xStart = w.xEnd ∨ w.yStart = w.yEnd then (places w.xStart w.xEnd, places w.yStart w.yEnd)
    else
      let (x, y) := middle p w
      let (a, b) := changes p fuel { w with xEnd := x, yEnd := y }
      let (c, d) := changes p fuel { w with xStart := x, yStart := y }
      (a ++ c, b ++ d)

end LinePair

/-! ## 3. Moving runs of changed lines -/

/-- The lines of one text with those that are changed, and those that are in the other. -/
structure Marked where
  numbers : Array Nat
  changed : Array Bool
  other : Array Bool

namespace Marked

/-- Whether a line is changed. -/
def isChanged (m : Marked) (i : Int) : Bool := 0 ≤ i && m.changed.getD i.toNat false

/-- Whether a line of the other text is changed. -/
def otherChanged (m : Marked) (j : Int) : Bool := 0 ≤ j && m.other.getD j.toNat false

/-- Marks a line. -/
def mark (m : Marked) (i : Int) (b : Bool) : Marked :=
  { m with changed := m.changed.setIfInBounds i.toNat b }

/-- Whether two lines are equal. -/
def equal (m : Marked) (a b : Int) : Bool :=
  0 ≤ a && 0 ≤ b && m.numbers[a.toNat]?.isSome && m.numbers[a.toNat]? == m.numbers[b.toNat]?

/-- The first place from one on, in steps, that passes a test. -/
def seek (test : Int → Bool) (step : Int) : (fuel : Nat) → Int → Int
  | 0, i => i
  | fuel + 1, i => if test i then i else seek test step fuel (i + step)

/-- A run of changed lines and the place in the other text that belongs to its end. -/
structure Run where
  first : Int
  last : Int
  across : Int

/-- How many steps any search may take. -/
def limit (m : Marked) : Nat := m.changed.size + m.other.size + 4

/-- Moves a run back as long as the line before it is equal to its last one. -/
def moveBack : (fuel : Nat) → Marked → Run → Marked × Run
  | 0, m, r => (m, r)
  | fuel + 1, m, r =>
    if r.first > 0 && m.equal (r.first - 1) (r.last - 1) then
      let m := (m.mark (r.first - 1) true).mark (r.last - 1) false
      let first := seek (fun i => !m.isChanged (i - 1)) (-1) m.limit (r.first - 1)
      let across := seek (fun j => !m.otherChanged j) (-1) m.limit (r.across - 1)
      moveBack fuel m ⟨first, r.last - 1, across⟩
    else (m, r)

/-- Moves a run forward as long as its first line is equal to the one behind it; notes its end where
it belongs to a run of the other text. -/
def moveForward : (fuel : Nat) → Marked → Run → (corresponding : Int) → Marked × Run × Int
  | 0, m, r, c => (m, r, c)
  | fuel + 1, m, r, c =>
    if r.last ≠ m.changed.size && m.equal r.first r.last then
      let m := (m.mark r.first false).mark r.last true
      let last := seek (fun i => !m.isChanged i) 1 m.limit (r.last + 1)
      let across := seek (fun j => !m.otherChanged j) 1 m.limit (r.across + 1)
      let c := if across > r.across + 1 then last else c
      moveForward fuel m ⟨r.first + 1, last, across⟩ c
    else (m, r, c)

/-- Moves a run back to where it belongs to a run of the other text. -/
def moveToOther : (fuel : Nat) → Marked → Run → (corresponding : Int) → Marked × Run
  | 0, m, r, _ => (m, r)
  | fuel + 1, m, r, c =>
    if c < r.last then
      let m := (m.mark (r.first - 1) true).mark (r.last - 1) false
      let across := seek (fun j => !m.otherChanged j) (-1) m.limit (r.across - 1)
      moveToOther fuel m ⟨r.first - 1, r.last - 1, across⟩ c
    else (m, r)

/-- Moves a run back and forth until it does not grow any more. -/
def settle : (fuel : Nat) → Marked → Run → Marked × Run × Int
  | 0, m, r => (m, r, r.last)
  | fuel + 1, m, r =>
    let length := r.last - r.first
    let (m, r) := moveBack m.limit m r
    let c := if m.otherChanged (r.across - 1) then r.last else (m.changed.size : Int)
    let (m, r, c) := moveForward m.limit m r c
    if length = r.last - r.first then (m, r, c) else settle fuel m r

/-- Goes on to the next changed line; the place in the other text goes on, too. -/
def nextRun (m : Marked) : (fuel : Nat) → (i j : Int) → Int × Int
  | 0, i, j => (i, j)
  | fuel + 1, i, j =>
    if i < m.changed.size && !m.isChanged i then
      nextRun m fuel (i + 1) (seek (fun j => !m.otherChanged j) 1 m.limit j + 1)
    else (i, j)

/-- Moves all runs from a place on. -/
def shiftFrom : (fuel : Nat) → Marked → (i j : Int) → Marked
  | 0, m, _, _ => m
  | fuel + 1, m, i, j =>
    let (i, j) := m.nextRun m.limit i j
    if m.changed.size ≤ i then m
    else
      let last := seek (fun i => !m.isChanged i) 1 m.limit (i + 1)
      let across := seek (fun j => !m.otherChanged j) 1 m.limit j
      let (m, r, c) := settle m.limit m ⟨i, last, across⟩
      let (m, r) := moveToOther m.limit m r c
      shiftFrom fuel m r.last r.across

end Marked

/-! ## 4. The differences of two texts -/

/-- A place where two texts differ: lines of the one and lines of the other, as the first place and
the place behind the last one. -/
structure Hunk where
  left : Nat × Nat
  right : Nat × Nat

/-- The hunks of marked lines from a pair of places on. -/
def hunksFrom (left right : Array Bool) : (fuel : Nat) → (i j : Nat) → List Hunk
  | 0, _, _ => []
  | fuel + 1, i, j =>
    if left.size ≤ i ∧ right.size ≤ j then []
    else if left.getD i false || right.getD j false then
      let size := left.size + right.size + 1
      let i' := (Marked.seek (fun n => !left.getD n.toNat false) 1 size i).toNat
      let j' := (Marked.seek (fun n => !right.getD n.toNat false) 1 size j).toNat
      ⟨(i, i'), (j, j')⟩ :: hunksFrom left right fuel i' j'
    else hunksFrom left right fuel (i + 1) (j + 1)

/-- The numbers of the lines of two texts. -/
def lineNumbers (left right : List String) : LinePair :=
  let all := (left ++ right).foldl (fun (known : List (String × Nat)) l =>
    if known.any (·.1 = l) then known else (l, known.length) :: known) []
  let number (l : String) : Nat := (all.lookup l).getD 0
  ⟨(left.map number).toArray, (right.map number).toArray⟩

/-- The lines of one text that are in the other, with their places. -/
def shared (mine other : Array Nat) : Array (Nat × Nat) :=
  (mine.zipIdx.filter fun l => other.contains l.1)

/-- The hunks in which two texts differ that have neither a beginning nor an end in common; the
texts begin at the given line. -/
def innerHunks (start : Nat) (left right : List String) : List Hunk :=
  let p := lineNumbers left right
  let a := shared p.left p.right
  let b := shared p.right p.left
  let q : LinePair := ⟨a.map (·.1), b.map (·.1)⟩
  let (x, y) := q.changes (a.size + b.size + 2) ⟨0, a.size, 0, b.size⟩
  let marks (size : Nat) (kept : Array (Nat × Nat)) (changed : List Nat) : Array Bool :=
    let same := (kept.zipIdx.toList.filter fun k => !changed.contains k.2).map fun k => k.1.2
    same.foldl (fun m i => m.setIfInBounds i false) (Array.replicate size true)
  let left := marks p.left.size a x
  let right := marks p.right.size b y
  let left := (Marked.shiftFrom (p.left.size + 1) ⟨p.left, left, right⟩ 0 0).changed
  let right := (Marked.shiftFrom (p.right.size + 1) ⟨p.right, right, left⟩ 0 0).changed
  let move (r : Nat × Nat) : Nat × Nat := (r.1 + start, r.2 + start)
  (hunksFrom left right (left.size + right.size + 2) 0 0).map fun h => ⟨move h.left, move h.right⟩

/-- How many lines two texts have in common at their beginnings. -/
def commonFront : List String → List String → Nat
  | a :: as, b :: bs => if a = b then commonFront as bs + 1 else 0
  | _, _ => 0

/-- The hunks in which two texts differ. -/
def hunks (left right : List String) : List Hunk :=
  let front := commonFront left right
  let a := left.drop front
  let b := right.drop front
  let back := commonFront a.reverse b.reverse
  innerHunks front (a.take (a.length - back)) (b.take (b.length - back))

end TidyTree.Tool
