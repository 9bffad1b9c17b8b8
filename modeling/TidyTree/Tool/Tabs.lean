/-
TidyTree.Tool.Tabs — tools that put blanks in the place of tabs and tabs
in the place of blanks.

Where tabs lead is a list of columns, behind which they may go on in
equal steps.
-/
import TidyTree.Tool.Lines

namespace TidyTree.Tool

open Shell

/-! ## 1. Tab stops -/

/-- How tab stops go on behind the last column that is given. -/
inductive LaterStops where
  | none
  /-- At every multiple. -/
  | multiples (n : Nat)
  /-- At every so many columns from the last one. -/
  | steps (n : Nat)

/-- The columns to which tabs lead. -/
structure TabStops where
  columns : List Nat
  later : LaterStops

/-- The tab stop behind a column, if there is one. -/
def TabStops.next? (t : TabStops) (column : Nat) : Option Nat :=
  match t.columns.find? (column < ·), t.later with
  | some c, _ => some c
  | none, .none => none
  | none, .multiples n => some (column + (n - column % n))
  | none, .steps n =>
    let last := t.columns.getLastD 0
    some (column + (n - (column - last) % n))

/-- Why a text gives no tab stops. -/
inductive TabFault where
  | badCharacters (rest : String)
  | zero
  | notAscending
  | notLast (sign : Char)

/-- What is wrong, in words. -/
def TabFault.message : TabFault → String
  | badCharacters rest => "tab size contains invalid character(s): " ++ quoted rest
  | zero => "tab size cannot be 0"
  | notAscending => "tab sizes must be ascending"
  | notLast sign => "'" ++ sign.toString ++ "' specifier only allowed with the last value"

/-- A number for a tab stop, with the sign in front of it. -/
abbrev SignedStop := Option Char × Nat

/-- Reads numbers with signs, between commas and blanks. -/
def signedStops : (fuel : Nat) → Option Char → List Char → Except TabFault (List SignedStop)
  | 0, _, _ => .ok []
  | _ + 1, _, [] => .ok []
  | fuel + 1, sign, c :: cs =>
    if c = ',' ∨ c = ' ' ∨ c = '\t' then signedStops fuel none cs
    else if c = '/' ∨ c = '+' then signedStops fuel (some c) cs
    else if c.isDigit then
      let ds := (c :: cs).takeWhile Char.isDigit
      let n := (leadingNumber ds).1.getD 0
      (signedStops fuel none ((c :: cs).drop ds.length)).map ((sign, n) :: ·)
    else .error (.badCharacters (String.ofList (c :: cs)))

/-- The tab stops that numbers with signs give. -/
def stopsOf (ns : List SignedStop) : Except TabFault TabStops := do
  let plain := (ns.filter fun n => n.1.isNone).map (·.2)
  if plain.any (· = 0) then .error .zero
  if (plain.zip plain.tail).any fun (a, b) => b ≤ a then .error .notAscending
  match ns.dropLast.find? fun n => n.1.isSome with
  | some (some c, _) => .error (.notLast c)
  | _ => pure ()
  match ns.getLast? with
  | some (some '/', n) => return ⟨plain, if n = 0 then .none else .multiples n⟩
  | some (some _, n) => return ⟨plain, if n = 0 then .none else .steps n⟩
  | _ =>
    match plain with
    | [] => return ⟨[], .multiples 8⟩
    | [n] => return ⟨[], .multiples n⟩
    | _ => return ⟨plain, .none⟩

/-- The tab stops that options give: values, and the characters of options that are numbers. -/
def givenStops (g : Given) : Act TabStops := do
  let texts := g.values "t"
  let numbers := g.options.filter fun o => o.1.toList.all fun c => c.isDigit || c = ','
  let old := String.join (numbers.map (·.1))
  let read (t : String) : Act (List SignedStop) := do
    match signedStops (t.length + 1) none t.toList with
    | .ok ns => return ns
    | .error e => refuse 1 e.message
  let ns ← (texts ++ if old = "" then [] else [old]).mapM read
  match stopsOf ns.flatten with
  | .ok t => return t
  | .error e => refuse 1 e.message

/-- The letters of options that are numbers. -/
def stopLetters : String := "0123456789,"

/-! ## 2. Blanks for tabs -/

/-- A line with blanks in the place of tabs, all or only those at its beginning. -/
def expandLine (t : TabStops) (onlyFirst : Bool) (l : String) : String :=
  let step (state : List Char × Nat × Bool) (c : Char) : List Char × Nat × Bool :=
    let (done, column, converts) := state
    if converts && c = '\t' then
      let next := (t.next? column).getD (column + 1)
      (List.replicate (next - column) ' ' ++ done, next, converts)
    else
      let converts := converts && (!onlyFirst || c = ' ' || c = '\t')
      (c :: done, if c = '\x08' then column - 1 else column + 1, converts)
  String.ofList (l.toList.foldl step ([], 0, true)).1.reverse

/-- Puts blanks in the place of tabs. -/
def expand (args : List String) : Act Nat := do
  let table := ((OptionTable.letters ("i" ++ stopLetters) "t").withFlags
    [("initial", "i")]).withValues [("tabs", "t")]
  let g ← given table 1 args
  let t ← givenStops g
  forEachInput g.operands fun _ text =>
    print (String.join ((fullLines text).map (expandLine t (g.has "i"))))

/-! ## 3. Tabs for blanks -/

/-- Where one is in a line: what is printed, the last character first, the column, and the blanks
that are not printed yet, the last first. -/
structure Unexpanding where
  done : List Char
  column : Nat
  blanks : List Char
  converts : Bool
  /-- Whether the first of the blanks stands right before a tab stop. -/
  beforeStop : Bool
  afterBlank : Bool

/-- Prints the blanks that were kept. -/
def Unexpanding.flush (u : Unexpanding) : Unexpanding :=
  let blanks := if 1 < u.blanks.length ∧ u.beforeStop then u.blanks.dropLast ++ ['\t'] else u.blanks
  { u with
    done := blanks ++ u.done
    blanks := []
    beforeStop := if u.blanks.isEmpty then u.beforeStop else false }

/-- Goes on by one character. -/
def Unexpanding.step (t : TabStops) (whole : Bool) (u : Unexpanding) (c : Char) : Unexpanding :=
  let isBlank : Bool := c = ' ' || c = '\t'
  let finish (u : Unexpanding) (c : Char) : Unexpanding :=
    let u := u.flush
    { u with
      done := c :: u.done
      afterBlank := isBlank
      converts := u.converts && (whole || isBlank) }
  if ¬ u.converts then { u with done := c :: u.done }
  else if isBlank then
    match t.next? u.column with
    | none =>
      let u := { u with converts := false }.flush
      { u with done := c :: u.done, afterBlank := true }
    | some next =>
      if c = '\t' then
        let first := u.blanks.getLast?
        let kept := if u.beforeStop ∧ first.isSome then ['\t'] else []
        finish { u with column := next, blanks := kept } '\t'
      else
        let column := u.column + 1
        if u.afterBlank ∧ column = next then
          let kept := if u.beforeStop then ['\t'] else []
          finish { u with column, blanks := kept } '\t'
        else
          { u with column, blanks := c :: u.blanks, afterBlank := true,
                   beforeStop := u.beforeStop || column = next }
  else finish { u with column := if c = '\x08' then u.column - 1 else u.column + 1 } c

/-- A line with tabs in the place of blanks, all or only those at its beginning. -/
def unexpandLine (t : TabStops) (whole : Bool) (l : String) : String :=
  let u := l.toList.foldl (Unexpanding.step t whole) ⟨[], 0, [], true, false, true⟩
  String.ofList u.flush.done.reverse

/-- Puts tabs in the place of blanks. -/
def unexpand (args : List String) : Act Nat := do
  let g ← given ((OptionTable.letters ("a" ++ stopLetters) "t").withFlags [("all", "a"),
    ("first-only", "first-only")] |>.withValues [("tabs", "t")]) 1 args
  let t ← givenStops g
  let whole := (g.has "a" || g.has "t") && !g.has "first-only"
  forEachInput g.operands fun _ text =>
    print (String.join ((fullLines text).map (unexpandLine t whole)))

end TidyTree.Tool
