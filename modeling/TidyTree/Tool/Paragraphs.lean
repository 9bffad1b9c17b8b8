/-
TidyTree.Tool.Paragraphs — laying out paragraphs anew.

The words of a paragraph are put into lines of about equal length.  What
it costs to end a line before a word is found from the last word
backwards, so that for every word the best way on from there is known
when it is asked for.
-/
import TidyTree.Tool.Lines

namespace TidyTree.Tool

open Shell

/-! ## 1. Words -/

/-- A word of a paragraph. -/
structure FilledWord where
  text : String
  /-- How many blanks follow it. -/
  space : Nat
  /-- Whether it begins with a sign that opens something. -/
  opens : Bool
  /-- Whether it ends with a sign, one that ends sentences, and a sentence. -/
  marked : Bool
  stops : Bool
  final : Bool

/-- How paragraphs are told apart and laid out. -/
structure FillStyle where
  width : Nat
  goal : Nat
  /-- Whether the second line says how far lines are indented, and has to differ from the first. -/
  crown : Bool
  tagged : Bool
  /-- Whether lines are not put together. -/
  splitOnly : Bool
  /-- Whether there is one blank between words and two behind sentences. -/
  uniform : Bool
  /-- What lines begin with that are laid out, and how far that is indented. -/
  mark : String
  markIndent : Nat

/-- A line with how far its mark is indented, where its words begin, and its words. -/
structure FillLine where
  markAt : Nat
  column : Nat
  words : List FilledWord
  /-- The line as it was. -/
  whole : String
  hasMark : Bool

/-- The column behind some blanks. -/
def columnBehind (column : Nat) (blanks : List Char) : Nat :=
  blanks.foldl (fun n c => if c = '\t' then (n / 8 + 1) * 8 else n + 1) column

/-- Whether the character is a blank within a line. -/
def isGap (c : Char) : Bool := c = ' ' || c = '\t'

/-- The words from a column on. -/
def filledWords (uniform : Bool) : (fuel column : Nat) → List Char → List FilledWord
  | 0, _, _ => []
  | fuel + 1, column, cs =>
    let word := cs.takeWhile fun c => !isGap c
    let rest := cs.drop word.length
    let gap := rest.takeWhile isGap
    let more := rest.drop gap.length
    let behind := column + word.length
    let space := columnBehind behind gap - behind
    let bare := word.reverse.dropWhile fun c => [')', ']', '\'', '"'].contains c
    let stops := ((if bare.isEmpty then word.head? else bare.head?).map
      fun c => ['.', '?', '!'].contains c).getD false
    let isLast := more.isEmpty
    let final := stops && (isLast || 1 < space)
    let w : FilledWord :=
      { text := String.ofList word
        space := if isLast || uniform then (if final then 2 else 1) else space
        opens := (word.head?.map fun c => ['(', '[', '\x60', '\'', '"'].contains c).getD false
        marked := (word.getLast?.map CharClass.punct.has).getD false
        stops
        final }
    if word.isEmpty then []
    else w :: (if isLast then [] else filledWords uniform fuel (behind + space) more)

/-- A line taken apart. -/
def FillStyle.line (s : FillStyle) (text : String) : FillLine :=
  let cs := text.toList
  let blanks := cs.takeWhile isGap
  let column := columnBehind 0 blanks
  let rest := cs.drop blanks.length
  let mark := s.mark.toList
  if mark.isEmpty then
    ⟨min s.markIndent column, column, filledWords s.uniform (cs.length + 1) column rest, text, true⟩
  else if mark.isPrefixOf rest then
    let behind := rest.drop mark.length
    let gap := behind.takeWhile isGap
    let start := columnBehind (column + mark.length) gap
    let ws := filledWords s.uniform (cs.length + 1) start (behind.drop gap.length)
    ⟨column, start, ws, text, true⟩
  else ⟨column, column, [], text, false⟩

/-! ## 2. Costs -/

/-- A square, which is what costs are counted in. -/
def squared (n : Int) : Int := n * n

/-- The best way on from a word: what it costs, how many words the line has, and how long it is. -/
structure Way where
  cost : Int
  count : Nat
  length : Nat

/-- What it costs to begin a line with a word, by the words before it, the nearest first. -/
def lineStartCost (before : List FilledWord) (w : FilledWord) : Int :=
  let base := squared 70
  let previous : Int := match before with
    | [] => 0
    | p :: rest =>
      if p.stops then (if p.final then -(squared 50) else squared 600)
      else if p.marked then -(squared 40)
      else if (rest.head?.map (·.final)).getD false then squared 200 / (p.text.length + 2 : Nat)
      else 0
  let own : Int := if w.opens then -(squared 40)
    else if w.final then squared 150 / (w.text.length + 2 : Nat) else 0
  base + previous + own

/-- What it costs that a line is so long, by the way on behind it, if there is one. -/
def lineCost (s : FillStyle) (length : Nat) (next : Option (Way × Bool)) : Int :=
  match next with
  | none => 0
  | some (way, isLast) =>
    squared (((s.goal : Int) - length) * 10) +
      (if isLast then 0 else squared (((length : Int) - way.length) * 10) / 2)

/-- The best way on from a word with which the line is so long, as far as the words behind it, which
come with their ways, can stand in the same line. -/
def bestWay (s : FillStyle) :
    List (FilledWord × Way) → (count length space : Nat) → (best : Option Way) → Option Way
  | [], count, length, _, best =>
    if best.any fun b => b.cost ≤ 0 then best else some ⟨0, count, length⟩
  | (w, way) :: rest, count, length, space, best =>
    let isLast := way.count = rest.length + 1
    let cost := lineCost s length (some (way, isLast)) + way.cost
    let best := if best.any fun b => b.cost ≤ cost then best else some ⟨cost, count, length⟩
    let longer := length + space + w.text.length
    if longer < s.width then bestWay s rest (count + 1) longer w.space best else best

/-- The words of a paragraph with their best ways on; `before` are the words in front, the nearest
first. -/
def waysFrom (s : FillStyle) (first other : Nat) :
    (before : List FilledWord) → List FilledWord → List (FilledWord × Way)
  | _, [] => []
  | before, w :: ws =>
    let rest := waysFrom s first other (w :: before) ws
    let indent := if before.isEmpty then first else other
    let way := (bestWay s rest 1 (indent + w.text.length) w.space none).getD ⟨0, 1, 0⟩
    (w, { way with cost := way.cost + lineStartCost before w }) :: rest

/-! ## 3. Lines -/

/-- Blanks from a column up to another one. -/
def gapText (tabs : Bool) (column target : Nat) : String :=
  let tabTarget := target / 8 * 8
  if tabs ∧ column + 1 < tabTarget then
    Spec.repeated (tabTarget / 8 - column / 8) '\t' ++ Spec.repeated (target - tabTarget) ' '
  else Spec.repeated (target - column) ' '

/-- The words of a line from a column on. -/
def lineText (tabs : Bool) : (column : Nat) → List FilledWord → String
  | _, [] => ""
  | _, [w] => w.text
  | column, w :: ws =>
    let behind := column + w.text.length
    let next := behind + w.space
    w.text ++ gapText tabs behind next ++ lineText tabs next ws

/-- The lines of a paragraph. -/
def paragraphText (s : FillStyle) (tabs : Bool) (markAt first other : Nat) :
    (fuel : Nat) → (isFirst : Bool) → List (FilledWord × Way) → String
  | 0, _, _ => ""
  | _ + 1, _, [] => ""
  | fuel + 1, isFirst, (w, way) :: rest =>
    let indent := if isFirst then first else other
    let start := markAt + s.mark.length
    let words := (((w, way) :: rest).take way.count).map (·.1)
    gapText tabs 0 markAt ++ s.mark ++ gapText tabs start indent ++
      lineText tabs (max indent start) words ++ "\n" ++
      paragraphText s tabs markAt first other fuel false (((w, way) :: rest).drop (max 1 way.count))

/-- The last word of a paragraph ends a sentence. -/
def ended : List FilledWord → List FilledWord
  | [] => []
  | [w] => [{ w with stops := true, final := true }]
  | w :: ws => w :: ended ws

/-- Lays out lines anew; `other` is how far the lines of the paragraph before were indented. -/
def filledText (s : FillStyle) (tabs : Bool) : (fuel : Nat) → (other : Nat) → List FillLine → String
  | 0, _, _ => ""
  | _ + 1, _, [] => ""
  | fuel + 1, other, l :: ls =>
    if l.words.isEmpty ∨ ¬ l.hasMark ∨ l.markAt < s.markIndent then
      let bare := if l.hasMark ∧ l.words.isEmpty then
          (if s.mark = "" then "" else gapText tabs 0 l.markAt ++ s.mark)
        else l.whole
      bare ++ "\n" ++ filledText s tabs fuel other ls
    else
      let goesOn (m : FillLine) : Bool := m.hasMark && m.markAt = l.markAt && !m.words.isEmpty
      let second := (ls.head?.filter fun m => goesOn m).map (·.column)
      let other := if s.splitOnly then l.column
        else if s.crown then second.getD l.column
        else if s.tagged then
          match second with
          | some c => if c ≠ l.column then c
            else if other = l.column then (if l.column = 0 then 3 else 0) else other
          | none => if other = l.column then (if l.column = 0 then 3 else 0) else other
        else l.column
      let joins := !s.splitOnly &&
        (if s.crown then second.isSome
        else if s.tagged then second.any (· ≠ l.column) else second = some other)
      let more := if joins then ls.takeWhile fun m => goesOn m && m.column = other else []
      let words := ended (l.words ++ more.flatMap (·.words))
      let ways := waysFrom s l.column other [] words
      paragraphText s tabs l.markAt l.column other (words.length + 1) true ways ++
        filledText s tabs fuel other (ls.drop more.length)

/-- Lays out paragraphs anew. -/
def fmt (args : List String) : Act Nat := do
  let modern (a : String) : String := match a.toList with
    | '-' :: c :: cs => if c.isDigit then "-w" ++ String.ofList (c :: cs) else a
    | _ => a
  let table := ((OptionTable.letters "cstu" "wgp").withFlags [("crown-margin", "c"),
    ("split-only", "s"), ("tagged-paragraph", "t"), ("uniform-spacing", "u")]).withValues
    [("width", "w"), ("goal", "g"), ("prefix", "p")]
  let g ← given table 1 ((args.take 1).map modern ++ args.drop 1)
  let number (key : String) : Act (Option Nat) := do
    match g.value? key with
    | none => return none
    | some v =>
      match v.toNat? with
      | some n => if n ≤ 2500 then return some n else refuse 1 ("invalid width: " ++ quoted v)
      | none => refuse 1 ("invalid width: " ++ quoted v)
  let goal ← number "g"
  let width := (← number "w").getD (match goal with
    | some n => n + 10
    | none => 75)
  let goal ← match goal with
    | some n => if width < n then refuse 1 ("invalid width: " ++ quoted (toString n)) else pure n
    | none => pure (width * 187 / 200)
  let mark := ((g.value? "p").getD "").toList
  let bare := mark.dropWhile (· = ' ')
  let s : FillStyle :=
    { width, goal
      crown := g.has "c"
      tagged := g.has "t" && !g.has "c"
      splitOnly := g.has "s"
      uniform := g.has "u"
      mark := String.ofList ((bare.reverse.dropWhile (· = ' ')).reverse)
      markIndent := mark.length - bare.length }
  forEachInput g.operands fun _ text =>
    let all := (lines text).map s.line
    print (filledText s (text.toList.contains '\t') (all.length + 1) 0 all)

end TidyTree.Tool
