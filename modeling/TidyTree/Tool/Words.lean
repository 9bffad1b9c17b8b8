/-
TidyTree.Tool.Words — tools for which their arguments are all there is.

They print words, take names of files apart, count, and test conditions.
-/
import TidyTree.Regex.Reader
import TidyTree.Shell.Builtin.Processes
import TidyTree.Shell.Builtin.Test
import TidyTree.Shell.Process
import TidyTree.Tool.Lines

namespace TidyTree.Tool

open Shell

/-! ## 1. Printing -/

/-- The hexadecimal digits at the front of a text, at most so many. -/
def hexDigits (most : Nat) (cs : List Char) : List Char :=
  (cs.take most).takeWhile fun c => (digitValue? c).isSome

/-- What a backslash stands for: characters, what follows, and whether the output ends.  With
`zero` an octal number may have a zero in front of three digits. -/
def toolEscape (zero : Bool) (cs : List Char) : List Char × List Char × Bool :=
  let octalOf (ds rest : List Char) : List Char × List Char × Bool :=
    ([Char.ofNat ((digits 8 ds).1 % 256)], rest, false)
  let isOct (c : Char) : Bool := '0' ≤ c && c ≤ '7'
  match cs with
  | [] => (['\\'], [], false)
  | 'c' :: rest => ([], rest, true)
  | 'x' :: rest =>
    let ds := hexDigits 2 rest
    if ds.isEmpty then (['\\', 'x'], rest, false)
    else ([Char.ofNat (digits 16 ds).1], rest.drop ds.length, false)
  | c :: rest =>
    if isOct c then
      let body := if zero ∧ c = '0' then rest else cs
      let ds := (body.take 3).takeWhile isOct
      if ds.isEmpty then (['\x00'], body, false) else octalOf ds (body.drop ds.length)
    else
      let known := [('a', '\x07'), ('b', '\x08'), ('e', '\x1b'), ('f', '\x0c'), ('n', '\n'),
        ('r', '\r'), ('t', '\t'), ('v', '\x0b'), ('\\', '\\'), ('"', '"')]
      match known.lookup c with
      | some d => ([d], rest, false)
      | none => (['\\', c], rest, false)

/-- A text with the meaning of its backslashes; the answer says whether the output ends. -/
def toolUnescape (zero : Bool) : (fuel : Nat) → List Char → List Char × Bool
  | 0, cs => (cs, false)
  | _ + 1, [] => ([], false)
  | fuel + 1, '\\' :: cs =>
    let (front, rest, ended) := toolEscape zero cs
    if ended then (front, true)
    else
      let (back, ended) := toolUnescape zero fuel rest
      (front ++ back, ended)
  | fuel + 1, c :: cs =>
    let (back, ended) := toolUnescape zero fuel cs
    (c :: back, ended)

/-- The options of `echo` and the words behind them: whether a line end is left out and whether
backslashes have a meaning. -/
def echoOptions : (noEnd escapes : Bool) → List String → Bool × Bool × List String
  | noEnd, escapes, [] => (noEnd, escapes, [])
  | noEnd, escapes, w :: ws =>
    match w.toList with
    | '-' :: c :: cs =>
      if (c :: cs).all fun c => c = 'n' || c = 'e' || c = 'E' then
        let last := ((c :: cs).filter (· ≠ 'n')).getLast?
        echoOptions (noEnd || (c :: cs).contains 'n') ((last.map (· == 'e')).getD escapes) ws
      else (noEnd, escapes, w :: ws)
    | _ => (noEnd, escapes, w :: ws)

/-- Prints its words as a line. -/
def echoWords (args : List String) : Act Nat := do
  let (noEnd, escapes, words) := echoOptions false false args
  let text := " ".intercalate words
  if escapes then
    let (cs, ended) := toolUnescape true (text.length + 1) text.toList
    printAll (String.ofList cs ++ if noEnd ∨ ended then "" else "\n")
  else printAll (text ++ if noEnd then "" else "\n")

/-- What a format is working on: arguments, the text so far, the status, and whether to end. -/
structure Layout where
  args : List String
  text : String
  status : Nat
  ended : Bool

/-- Takes the next argument. -/
def Layout.next (l : Layout) : Option String × Layout :=
  (l.args.head?, { l with args := l.args.tail })

/-- Prints what there is so far, so that a complaint comes behind it. -/
def Layout.flush (l : Layout) : Act Layout := do
  print l.text
  return { l with text := "" }

/-- Complains about an argument that is no number. -/
def Layout.badNumber (l : Layout) (s what : String) : Act Layout := do
  let l ← l.flush
  complain (quoted s ++ ": " ++ what)
  return { l with status := 1 }

/-- The whole number that the next argument writes. -/
def Layout.integer (l : Layout) : Act (Int × Layout) := do
  match l.next with
  | (none, l) => return (0, l)
  | (some s, l) =>
    match s.toList with
    | [] => return (0, ← l.badNumber s "expected a numeric value")
    | c :: rest =>
      if (c = '"' ∨ c = '\'') ∧ ¬ rest.isEmpty then
        return (((rest.head?.map Char.toNat).getD 0 : Nat), l)
      else
        let cs := s.toList.dropWhile CharClass.space.has
        let (negative, ds) := match cs with
          | '-' :: ds => (true, ds)
          | '+' :: ds => (false, ds)
          | _ => (false, cs)
        match natural? ds with
        | none => return (0, ← l.badNumber s "expected a numeric value")
        | some (n, rest) =>
          let value : Int := if negative then -(n : Int) else n
          if rest.isEmpty then return (value, l)
          else return (value, ← l.badNumber s "value not completely converted")

/-- The number with a fraction that the next argument writes. -/
def Layout.real (l : Layout) : Act (Quantity × Layout) := do
  match l.next with
  | (none, l) => return (.quotient false 0 1, l)
  | (some s, l) =>
    match Quantity.ofFront? s.toList with
    | none => return (.quotient false 0 1, ← l.badNumber s "expected a numeric value")
    | some (x, rest) =>
      if rest.isEmpty then return (x, l)
      else return (x, ← l.badNumber s "value not completely converted")

/-- Adds a text. -/
def Layout.add (l : Layout) (t : String) : Layout := { l with text := l.text ++ t }

/-- Lays out the next argument by a letter. -/
def Layout.convert (l : Layout) (spec : Spec) (letter : Char) (directive : String) :
    Act Layout := do
  match letter with
  | 'b' =>
    let (s, l) := l.next
    let text := (s.getD "").toList
    let (cs, ended) := toolUnescape true (text.length + 1) text
    return { l.add (spec.text (String.ofList cs)) with ended }
  | 'c' =>
    let (s, l) := l.next
    return l.add ({ spec with precision := none }.text
      (String.ofList ((s.getD "").toList.take 1)))
  | 's' =>
    let (s, l) := l.next
    return l.add (spec.text (s.getD ""))
  | 'q' =>
    let (s, l) := l.next
    return l.add (spec.text (shown (s.getD "")))
  | 'd' | 'i' =>
    let (n, l) ← l.integer
    return l.add (spec.integer n)
  | 'o' | 'u' | 'x' | 'X' =>
    let (n, l) ← l.integer
    let base := if letter = 'o' then 8 else if letter = 'u' then 10 else 16
    return l.add (spec.natural base (letter = 'X') (Operation.bits n))
  | 'e' | 'E' | 'f' | 'F' | 'g' | 'G' =>
    let (x, l) ← l.real
    return l.add (spec.real letter x)
  | _ =>
    let _ ← l.flush
    refuse 1 (directive ++ ": invalid conversion specification")

/-- Goes through a format once. -/
def Layout.once : (fuel : Nat) → List Char → Layout → Act Layout
  | 0, _, l => return l
  | _ + 1, [], l => return l
  | fuel + 1, '\\' :: cs, l => do
    let (front, rest, ended) := toolEscape false cs
    let l := l.add (String.ofList front)
    if ended then return { l with ended } else Layout.once fuel rest l
  | fuel + 1, '%' :: '%' :: cs, l => Layout.once fuel cs (l.add "%")
  | fuel + 1, '%' :: cs, l => do
    let (written, rest) := writtenSpec cs
    let (width, l) ← if written.widthGiven then l.integer else pure (0, l)
    let (precision, l) ← if written.precisionGiven then l.integer else pure (0, l)
    match rest with
    | [] =>
      let _ ← l.flush
      refuse 1 (String.ofList ('%' :: cs) ++ ": invalid conversion specification")
    | letter :: rest =>
      let directive := String.ofList ('%' :: cs.take (cs.length - rest.length))
      let l ← l.convert (written.toSpec width precision) letter directive
      if l.ended then return l else Layout.once fuel rest l
  | fuel + 1, c :: cs, l => Layout.once fuel cs (l.add c.toString)

/-- Goes through a format as long as it uses up arguments. -/
def Layout.all (format : List Char) : (rounds : Nat) → Layout → Act Layout
  | 0, l => return l
  | rounds + 1, l => do
    let after ← Layout.once (format.length + 1) format l
    if after.ended ∨ after.args.isEmpty then return after
    else if after.args.length = l.args.length then
      let after ← after.flush
      complain ("warning: ignoring excess arguments, starting with " ++
        quoted (after.args.headD ""))
      return after
    else Layout.all format rounds after

/-- Prints its arguments by a format. -/
def printfWords (args : List String) : Act Nat := do
  match if args.head? = some "--" then args.tail else args with
  | [] => refuseUse 1 "missing operand"
  | format :: rest =>
    let l ← Layout.all format.toList (rest.length + 1) ⟨rest, "", 0, false⟩
    return max l.status (← printAll l.text)

/-- Prints a line again and again, more often than anyone reads it. -/
def yes (args : List String) : Act Nat := do
  let line := (if args.isEmpty then "y" else " ".intercalate args) ++ "\n"
  print (String.join (List.replicate (1 + 65536 / line.length) line))
  throw (.killed ⟨13⟩)

/-! ## 2. Names of files -/

/-- The last component of a path. -/
def lastComponent (path : String) : String :=
  let cs := ((path.toList.reverse.dropWhile (· = '/')).takeWhile (· ≠ '/')).reverse
  if cs.isEmpty ∧ path.toList.contains '/' then "/" else String.ofList cs

/-- A name without an ending, unless nothing would be left. -/
def withoutEnding (name ending : String) : String :=
  if ending ≠ "" ∧ name ≠ ending ∧ name ≠ "/" ∧
    ending.toList.reverse.isPrefixOf name.toList.reverse then
    String.ofList (name.toList.take (name.length - ending.length))
  else name

/-- Prints the last components of paths. -/
def basename (args : List String) : Act Nat := do
  let table := { ((OptionTable.letters "az" "s").withFlags [("multiple", "a"),
    ("zero", "z")]).withValues [("suffix", "s")] with stops := true }
  let g ← given table 1 args
  let ending := if g.has "z" then "\x00" else "\n"
  match g.operands with
  | [] => refuseUse 1 "missing operand"
  | a :: rest =>
    if g.has "a" ∨ g.has "s" then
      g.operands.forM fun p =>
        print (withoutEnding (lastComponent p) ((g.value? "s").getD "") ++ ending)
      return 0
    else
      match rest with
      | _ :: extra :: _ => refuseUse 1 ("extra operand " ++ quoted extra)
      | _ => printAll (withoutEnding (lastComponent a) (rest.headD "") ++ ending)

/-- The path without its last component. -/
def parentPath (path : String) : String :=
  let front := (path.toList.reverse.dropWhile (· = '/')).dropWhile (· ≠ '/')
  let cs := (front.dropWhile (· = '/')).reverse
  if cs.isEmpty then (if path.toList.head? = some '/' then "/" else ".") else String.ofList cs

/-- Prints paths without their last components. -/
def dirname (args : List String) : Act Nat := do
  let g ← given ((OptionTable.letters "z" "").withFlags [("zero", "z")]) 1 args
  if g.operands.isEmpty then refuseUse 1 "missing operand"
  let ending := if g.has "z" then "\x00" else "\n"
  printAll (String.join (g.operands.map fun p => parentPath p ++ ending))

/-! ## 3. Counting -/

/-- A decimal number as a whole number of units, with the number of places. -/
structure Fixed where
  units : Int
  places : Nat

/-- The decimal number that a text writes. -/
def Fixed.ofText? (s : String) : Option Fixed :=
  let cs := s.toList.dropWhile CharClass.space.has
  let (negative, cs) := match cs with
    | '-' :: rest => (true, rest)
    | '+' :: rest => (false, rest)
    | _ => (false, cs)
  let sign (n : Nat) : Int := if negative then -(n : Int) else n
  match cs with
  | '0' :: x :: ds =>
    if (x = 'x' ∨ x = 'X') ∧ ¬ ds.isEmpty ∧ ds.all fun c => (digitValue? c).isSome then
      some ⟨sign (digits 16 ds).1, 0⟩
    else decimal sign cs
  | _ => decimal sign cs
where
  decimal (sign : Nat → Int) (cs : List Char) : Option Fixed :=
    let (ds, places, rest) := decimalDigits cs
    if ds.isEmpty then none
    else
      match rest with
      | [] => some ⟨sign (digits 10 ds).1, places⟩
      | e :: more =>
        if e = 'e' ∨ e = 'E' then
          match (String.ofList (if more.head? = some '+' then more.tail else more)).toInt? with
          | none => none
          | some power =>
            let n := (digits 10 ds).1
            let shift := power - places
            if power.natAbs > 400 then none
            else if shift ≥ 0 then some ⟨sign (n * Decimal.tenTo shift.toNat), 0⟩
            else some ⟨sign n, (-shift).toNat⟩
        else none

/-- The units of the number at a number of places. -/
def Fixed.at (f : Fixed) (places : Nat) : Int := f.units * Decimal.tenTo (places - f.places)

/-- A number of units as text. -/
def fixedText (units : Int) (places : Nat) : String :=
  (if units < 0 then "-" else "") ++ Spec.withPoint false units.natAbs places

/-- The text with zeros behind its sign up to a width. -/
def zeroFilled (width : Nat) (s : String) : String :=
  let zeros := String.ofList (List.replicate (width - s.length) '0')
  match s.toList with
  | '-' :: cs => "-" ++ zeros ++ String.ofList cs
  | _ => zeros ++ s

/-- Prints numbers in a row. -/
def seq (args : List String) : Act Nat := do
  let table := { ((OptionTable.letters "w" "fs").withFlags [("equal-width", "w")]).withValues
    [("format", "f"), ("separator", "s")] with stops := true }
  let isNumber (a : String) : Bool := match a.toList with
    | '-' :: c :: _ => c.isDigit || c = '.'
    | _ => false
  let front := args.takeWhile fun a => !isNumber a
  let guarded := if front.length = args.length then args else
    if front.any fun a => (a.toList.head? ≠ some '-') then args
    else front ++ "--" :: args.drop front.length
  let g ← given table 1 (if front.contains "--" then args else guarded)
  let numbers ← g.operands.mapM fun a => do
    match Fixed.ofText? a with
    | some f => return (f, a)
    | none => refuseUse 1 ("invalid floating point argument: " ++ quoted a)
  let one : Fixed := ⟨1, 0⟩
  let (first, increment, last) : Fixed × Fixed × Fixed ← match numbers with
    | [] => refuseUse 1 "missing operand"
    | [(l, _)] => pure (one, one, l)
    | [(f, _), (l, _)] => pure (f, one, l)
    | [(f, _), (i, text), (l, _)] =>
      if i.units = 0 then refuseUse 1 ("invalid Zero increment value: " ++ quoted text)
      else pure (f, i, l)
    | _ => refuseUse 1 ("extra operand " ++ quoted ((g.operands.drop 3).headD ""))
  let places := max first.places increment.places
  let scale := max places last.places
  let a := first.at scale
  let d := increment.at scale
  let z := last.at scale
  let count : Nat := if (if d > 0 then z < a else a < z) then 0 else ((z - a) / d).toNat + 1
  let values := (List.range count).map fun (i : Nat) => a + (i : Int) * d
  let text (v : Int) : String := fixedText (v.tdiv (Decimal.tenTo (scale - places))) places
  let width := max (text a).length (text (values.getLastD a)).length
  let shownValue ← match g.value? "f" with
    | some format =>
      if ¬ format.toList.contains '%' then
        refuse 1 ("format " ++ quoted format ++ " has no % directive")
      let one (v : Int) : String :=
        let front := format.toList.takeWhile (· ≠ '%')
        let (written, rest) := writtenSpec (format.toList.drop (front.length + 1))
        match rest with
        | letter :: rest => String.ofList front ++
          (written.toSpec 0 0).real letter (.quotient (v < 0) v.natAbs (Decimal.tenTo scale)) ++
          String.ofList rest
        | [] => format
      pure one
    | none => pure fun v => if g.has "w" then zeroFilled width (text v) else text v
  if values.isEmpty then return 0
  printAll (((g.value? "s").getD "\n").intercalate (values.map shownValue) ++ "\n")

/-! ## 4. Expressions -/

/-- The words of an expression that are left. -/
abbrev Terms := StateT (List String) Act

/-- Complains about an expression. -/
def expressionFault {α : Type} (text : String) : Act α := refuse 2 ("syntax error: " ++ text)

/-- Whether a value counts as false. -/
def isNull (s : String) : Bool :=
  s = "" || (match s.toList with
    | '-' :: cs => !cs.isEmpty && cs.all (· = '0')
    | cs => cs.all (· = '0'))

/-- The number that a value writes. -/
def wholeNumber? (s : String) : Option Int :=
  match s.toList with
  | '-' :: cs => if ¬ cs.isEmpty ∧ cs.all Char.isDigit then some (-(digits 10 cs).1 : Int) else none
  | cs => if ¬ cs.isEmpty ∧ cs.all Char.isDigit then some (digits 10 cs).1 else none

/-- The number that an operand writes. -/
def numberOf (s : String) : Act Int :=
  match wholeNumber? s with
  | some n => return n
  | none => refuse 2 "non-integer argument"

/-- What a pattern fits at the beginning of a text: the first group, or the number of characters. -/
def matchText (text pattern : String) : Act String := do
  match Regex.ofText ⟨false, false⟩ pattern.toList with
  | .error e => refuse 2 e.message
  | .ok (r, groups) =>
    let x : Subject := ⟨text.toList.toArray, false, false⟩
    match r.fitAt? x 0 with
    | none => return if groups = 0 then "0" else ""
    | some f =>
      return if groups = 0 then toString (f.last - f.first) else String.ofList (f.group x 1)

/-- The word that was read last, for complaints. -/
def lastWord (all : List String) (left : List String) : String :=
  (all[all.length - left.length - 1]?).getD ""

section

variable (all : List String)

/-- The next word; there has to be one. -/
def nextTerm : Terms String := do
  match ← get with
  | [] => expressionFault ("missing argument after " ++ quoted (lastWord all []))
  | w :: rest => set rest; return w

/-- Goes on behind the word if it comes next. -/
def takesWord (w : String) : Terms Bool := do
  match ← get with
  | v :: rest => if v = w then do set rest; return true else return false
  | [] => return false

/-- The operators of each level, the loosest first. -/
def expressionLevels : List (List String) :=
  [["|"], ["&"], ["<", "<=", "=", "==", "!=", ">=", ">"], ["+", "-"], ["*", "/", "%"], [":"]]

/-- The result of an operator. -/
def applyOperator (operator a b : String) : Act String := do
  let truth (b : Bool) : String := if b then "1" else "0"
  match operator with
  | "|" => return if isNull a then (if isNull b then "0" else b) else a
  | "&" => return if isNull a ∨ isNull b then "0" else a
  | ":" => matchText a b
  | "+" | "-" | "*" | "/" | "%" =>
    let x ← numberOf a
    let y ← numberOf b
    if (operator = "/" ∨ operator = "%") ∧ y = 0 then refuse 2 "division by zero"
    return toString (match operator with
      | "+" => x + y
      | "-" => x - y
      | "*" => x * y
      | "/" => x.tdiv y
      | _ => x.tmod y)
  | _ =>
    let o : Ordering := match wholeNumber? a, wholeNumber? b with
      | some x, some y => compare x y
      | _, _ => if a = b then .eq else if a < b then .lt else .gt
    return truth (match operator with
      | "<" => o = .lt
      | "<=" => o ≠ .gt
      | "=" | "==" => o = .eq
      | "!=" => o ≠ .eq
      | ">=" => o ≠ .lt
      | _ => o = .gt)

mutual

/-- The value of the operators of a level and those that bind tighter. -/
def levelValue : (fuel : Nat) → List (List String) → Terms String
  | 0, _ => return ""
  | fuel + 1, [] => simpleValue fuel
  | fuel + 1, level :: tighter => do
    let a ← levelValue fuel tighter
    moreOperators fuel level tighter a

/-- Goes on as long as an operator of the level comes next. -/
def moreOperators : (fuel : Nat) → List String → List (List String) → String → Terms String
  | 0, _, _, a => return a
  | fuel + 1, level, tighter, a => do
    match ← get with
    | w :: rest =>
      if level.contains w then
        set rest
        let b ← levelValue fuel tighter
        moreOperators fuel level tighter (← applyOperator w a b)
      else return a
    | [] => return a

/-- The value of an operand. -/
def simpleValue : (fuel : Nat) → Terms String
  | 0 => return ""
  | fuel + 1 => do
    let w ← nextTerm all
    match w with
    | "(" =>
      let v ← levelValue fuel expressionLevels
      match ← get with
      | ")" :: rest => set rest; return v
      | [] => expressionFault ("expecting ')' after " ++ quoted (lastWord all []))
      | other :: _ => expressionFault ("expecting ')' instead of " ++ quoted other)
    | ")" => expressionFault "unexpected ')'"
    | "+" => nextTerm all
    | "length" => return toString (← simpleValue fuel).length
    | "match" =>
      let a ← simpleValue fuel
      let b ← simpleValue fuel
      matchText a b
    | "index" =>
      let a ← simpleValue fuel
      let b ← simpleValue fuel
      return toString (((a.toList.findIdx? b.toList.contains).map (· + 1)).getD 0)
    | "substr" =>
      let s ← simpleValue fuel
      let first ← simpleValue fuel
      let count ← simpleValue fuel
      match wholeNumber? first, wholeNumber? count with
      | some p, some n =>
        if p ≤ 0 ∨ n ≤ 0 then return ""
        else return String.ofList ((s.toList.drop (p.toNat - 1)).take n.toNat)
      | _, _ => return ""
    | _ => return w

end

end

/-- Prints the value of an expression. -/
def expr (args : List String) : Act Nat := do
  let args := if args.head? = some "--" then args.tail else args
  if args.isEmpty then refuseUse 2 "missing operand"
  let (v, rest) ← (levelValue args (20 * args.length + 20) expressionLevels).run args
  match rest with
  | extra :: _ => expressionFault ("unexpected argument " ++ quoted extra)
  | [] =>
    let _ ← printAll (v ++ "\n")
    return if isNull v then 1 else 0

/-! ## 5. Conditions -/

/-- Complains about a condition. -/
def badCondition {α : Type} (text : String) : Act α := refuse 2 text

/-- The whole number that an operand of a condition writes. -/
def conditionNumber (s : String) : Act Int :=
  let cs := (s.toList.dropWhile CharClass.space.has).reverse.dropWhile CharClass.space.has
  let core := String.ofList cs.reverse
  let unsigned := if core.toList.head? = some '+' then String.ofList (core.toList.drop 1) else core
  match wholeNumber? unsigned with
  | some n => return n
  | none => badCondition ("invalid integer " ++ quoted s)

/-- Whether a condition with one operator holds. -/
def unaryCondition (operator operand : String) : Act Bool :=
  match operator with
  | "-n" => return operand ≠ ""
  | "-z" => return operand = ""
  | "-t" => do
    let _ ← conditionNumber operand
    return false
  | _ => fileHolds operator operand

/-- Whether a condition between two operands holds. -/
def binaryCondition (operator a b : String) : Act Bool := do
  match operator with
  | "=" | "==" => return a = b
  | "!=" => return a ≠ b
  | "<" => return a < b
  | ">" => return b < a
  | "-ef" => sameEntry a b
  | "-nt" | "-ot" => do
    let first ← resolve a
    let second ← resolve b
    return (if operator = "-nt" then first.isOk && !second.isOk else !first.isOk && second.isOk)
  | _ =>
    let x ← conditionNumber a
    let y ← conditionNumber b
    match operator with
    | "-eq" => return x = y
    | "-ne" => return x ≠ y
    | "-gt" => return x > y
    | "-ge" => return x ≥ y
    | "-lt" => return x < y
    | _ => return x ≤ y

/-- The operators between two operands. -/
def isBinaryOperator (s : String) : Bool := s = "==" || binaryOperators.contains s

/-- The operators with one operand. -/
def isUnaryOperator (s : String) : Bool :=
  s = "-N" || unaryOperators.contains s

mutual

/-- Whether the words of a condition hold, by their number. -/
def wordsHold : (fuel : Nat) → List String → Act Bool
  | 0, _ => return false
  | fuel + 1, words =>
    match words with
    | [] => return false
    | [a] => return a ≠ ""
    | [a, b] =>
      if a = "!" then return b = ""
      else if isUnaryOperator a then unaryCondition a b
      else badCondition ("missing argument after " ++ quoted b)
    | [a, b, c] =>
      if isBinaryOperator b then binaryCondition b a c
      else if a = "!" then do return !(← wordsHold fuel [b, c])
      else if a = "(" ∧ c = ")" then return b ≠ ""
      else if b = "-a" then return a ≠ "" ∧ c ≠ ""
      else if b = "-o" then return a ≠ "" ∨ c ≠ ""
      else badCondition (quoted b ++ ": binary operator expected")
    | [a, b, c, d] =>
      if a = "!" then do return !(← wordsHold fuel [b, c, d])
      else if a = "(" ∧ d = ")" then wordsHold fuel [b, c]
      else do
        let (v, rest) ← anyOf fuel words
        if rest.isEmpty then return v
        else badCondition ("extra argument " ++ quoted (rest.headD ""))
    | _ => do
      let (v, rest) ← anyOf fuel words
      if rest.isEmpty then return v
      else badCondition ("extra argument " ++ quoted (rest.headD ""))

/-- Conditions of which one has to hold, and the words behind them. -/
def anyOf : (fuel : Nat) → List String → Act (Bool × List String)
  | 0, ws => return (false, ws)
  | fuel + 1, ws => do
    let (a, rest) ← eachOf fuel ws
    match rest with
    | "-o" :: more =>
      let (b, rest) ← anyOf fuel more
      return (a || b, rest)
    | _ => return (a, rest)

/-- Conditions that all have to hold, and the words behind them. -/
def eachOf : (fuel : Nat) → List String → Act (Bool × List String)
  | 0, ws => return (false, ws)
  | fuel + 1, ws => do
    let (a, rest) ← oneOf fuel ws
    match rest with
    | "-a" :: more =>
      let (b, rest) ← eachOf fuel more
      return (a && b, rest)
    | _ => return (a, rest)

/-- A single condition, and the words behind it. -/
def oneOf : (fuel : Nat) → List String → Act (Bool × List String)
  | 0, ws => return (false, ws)
  | fuel + 1, ws =>
    match ws with
    | [] => badCondition "missing argument"
    | "!" :: rest => do
      let (v, rest) ← oneOf fuel rest
      return (!v, rest)
    | "(" :: rest => do
      let (v, rest) ← anyOf fuel rest
      match rest with
      | ")" :: more => return (v, more)
      | _ => badCondition "')' expected"
    | a :: operator :: b :: rest => do
      if isBinaryOperator operator then return (← binaryCondition operator a b, rest)
      else if isUnaryOperator a then return (← unaryCondition a operator, b :: rest)
      else return (a ≠ "", operator :: b :: rest)
    | [a, b] => do
      if isUnaryOperator a then return (← unaryCondition a b, []) else return (a ≠ "", [b])
    | [a] => return (a ≠ "", [])

end

/-- Tests a condition. -/
def condition (bracketed : Bool) (args : List String) : Act Nat := do
  let words ←
    if bracketed then
      if args.getLast? = some "]" then pure args.dropLast else badCondition "missing ']'"
    else pure args
  return if ← wordsHold (words.length + 10) words then 0 else 1

/-! ## 6. The system -/

/-- How long a time is, in thousandths of a second. -/
def duration? (s : String) : Option Nat :=
  let (ds, places, rest) := decimalDigits s.toList
  let scale? : Option Nat := match rest with
    | [] | ['s'] => some 1
    | ['m'] => some 60
    | ['h'] => some 3600
    | ['d'] => some 86400
    | _ => none
  if ds.isEmpty then none
  else scale?.map fun scale => (digits 10 ds).1 * 1000 * scale / Decimal.tenTo places

/-- Lets time pass. -/
def sleep (args : List String) : Act Nat := do
  let g ← given (.letters "" "") 1 args
  if g.operands.isEmpty then refuseUse 1 "missing operand"
  let times ← g.operands.mapM fun a => do
    match duration? a with
    | some t => return some t
    | none => complain ("invalid time interval " ++ quoted a); return none
  if times.any Option.isNone then
    say ("Try '" ++ (← get).name ++ " --help' for more information.\n")
    return 1
  let total := (times.filterMap id).foldl (· + ·) 0
  modify fun m => { m with world := { m.world with clock := m.world.clock + total } }
  return 0

end TidyTree.Tool
