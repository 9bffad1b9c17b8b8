/-
TidyTree.Tool.Calendar — dates and times of day.

A time is a number of seconds since the beginning of 1970.  Days are
counted in years that begin with March, so that the day that some years
have more comes last, and in spans of four hundred years, which all have
the same number of days.
-/
import TidyTree.Tool.Files

namespace TidyTree.Tool

open Shell

/-! ## 1. Days -/

/-- A day of the calendar. -/
structure Day where
  year : Int
  month : Nat
  day : Nat
deriving DecidableEq, Repr

/-- How many days a span of four hundred years has. -/
def spanDays : Int := 146097

/-- The day that comes so many days after the first one of 1970. -/
def Day.ofCount (n : Int) : Day :=
  let shifted := n + 719468
  let span := Int.fdiv shifted spanDays
  let inSpan := (Int.fmod shifted spanDays).toNat
  let year := (inSpan - inSpan / 1460 + inSpan / 36524 - inSpan / 146096) / 365
  let inYear := inSpan - (365 * year + year / 4 - year / 100)
  let part := (5 * inYear + 2) / 153
  let month := if part < 10 then part + 3 else part - 9
  { year := year + span * 400 + (if month ≤ 2 then 1 else 0)
    month
    day := inYear - (153 * part + 2) / 5 + 1 }

/-- How many days a day comes after the first one of 1970. -/
def Day.count (d : Day) : Int :=
  let year := if d.month ≤ 2 then d.year - 1 else d.year
  let span := Int.fdiv year 400
  let inSpan := (Int.fmod year 400).toNat
  let part := if 2 < d.month then d.month - 3 else d.month + 9
  let inYear := (153 * part + 2) / 5 + d.day - 1
  span * spanDays + (inSpan * 365 + inSpan / 4 - inSpan / 100 + inYear : Nat) - 719468

/-- Whether there is such a day. -/
def Day.isReal (d : Day) : Bool := 1 ≤ d.month && d.month ≤ 12 && Day.ofCount d.count == d

/-- The names of the days of the week. -/
def weekdayNames : List String :=
  ["Sunday", "Monday", "Tuesday", "Wednesday", "Thursday", "Friday", "Saturday"]

/-- The names of the months. -/
def monthNames : List String :=
  ["January", "February", "March", "April", "May", "June", "July", "August", "September",
    "October", "November", "December"]

/-! ## 2. Showing -/

/-- A number with so many digits at least, filled with zeros or blanks or not at all. -/
def timeDigits (flag : Option Char) (filler : Char) (width : Nat) (n : Int) : String :=
  let t := toString n
  match flag with
  | some '-' => t
  | some '_' => Spec.repeated (width - t.length) ' ' ++ t
  | some '0' => Spec.repeated (width - t.length) '0' ++ t
  | _ => Spec.repeated (width - t.length) filler ++ t

/-- What a letter stands for at a time. -/
def timeLetter? (flag : Option Char) (seconds : Int) (c : Char) : Option String :=
  let days := Int.fdiv seconds 86400
  let inDay := (Int.fmod seconds 86400).toNat
  let d := Day.ofCount days
  let hour := inDay / 3600
  let minute := inDay / 60 % 60
  let weekday := (Int.fmod (days + 4) 7).toNat
  let dayOfYear := (days - (Day.mk d.year 1 1).count).toNat + 1
  let hour12 := if hour % 12 = 0 then 12 else hour % 12
  let two (n : Nat) : String := timeDigits flag '0' 2 n
  let cased (t : String) : String := if flag = some '^' then t.map Char.toUpper else t
  let weekdayName := (weekdayNames[weekday]?).getD ""
  let monthName := (monthNames[d.month - 1]?).getD ""
  let short (t : String) : String := String.ofList (t.toList.take 3)
  let clock := timeDigits none '0' 2 hour ++ ":" ++ timeDigits none '0' 2 minute ++ ":" ++
    timeDigits none '0' 2 (inDay % 60 : Nat)
  match c with
  | '%' => some "%"
  | 'n' => some "\n"
  | 't' => some "\t"
  | 'Y' | 'G' => some (timeDigits flag '0' 4 d.year)
  | 'C' => some (timeDigits flag '0' 2 (Int.fdiv d.year 100))
  | 'y' | 'g' => some (two (Int.fmod d.year 100).toNat)
  | 'm' => some (two d.month)
  | 'd' => some (two d.day)
  | 'e' => some (timeDigits flag ' ' 2 d.day)
  | 'H' => some (two hour)
  | 'I' => some (two hour12)
  | 'k' => some (timeDigits flag ' ' 2 hour)
  | 'l' => some (timeDigits flag ' ' 2 hour12)
  | 'M' => some (two minute)
  | 'S' => some (two (inDay % 60))
  | 's' => some (toString seconds)
  | 'N' => some "000000000"
  | 'j' => some (timeDigits flag '0' 3 dayOfYear)
  | 'u' => some (toString (if weekday = 0 then 7 else weekday))
  | 'w' => some (toString weekday)
  | 'U' => some (two ((dayOfYear + 6 - weekday) / 7))
  | 'W' => some (two ((dayOfYear + 6 - (weekday + 6) % 7) / 7))
  | 'q' => some (toString ((d.month + 2) / 3))
  | 'a' => some (cased (short weekdayName))
  | 'A' => some (cased weekdayName)
  | 'b' | 'h' => some (cased (short monthName))
  | 'B' => some (cased monthName)
  | 'p' => some (if hour < 12 then "AM" else "PM")
  | 'P' => some (if hour < 12 then "am" else "pm")
  | 'Z' => some "UTC"
  | 'z' => some "+0000"
  | 'F' =>
    some (toString d.year ++ "-" ++ timeDigits none '0' 2 d.month ++ "-" ++
      timeDigits none '0' 2 d.day)
  | 'D' | 'x' =>
    some (timeDigits none '0' 2 d.month ++ "/" ++ timeDigits none '0' 2 d.day ++ "/" ++
      timeDigits none '0' 2 (Int.fmod d.year 100))
  | 'T' | 'X' => some clock
  | 'R' => some (String.ofList (clock.toList.take 5))
  | 'r' =>
    some (timeDigits none '0' 2 hour12 ++ String.ofList (clock.toList.drop 2) ++
      (if hour < 12 then " AM" else " PM"))
  | 'c' =>
    some (short weekdayName ++ " " ++ short monthName ++ " " ++ timeDigits none ' ' 2 d.day ++
      " " ++ clock ++ " " ++ toString d.year)
  | _ => none

/-- A time as a layout says. -/
def timeText (seconds : Int) : (fuel : Nat) → List Char → String
  | 0, _ => ""
  | _ + 1, [] => ""
  | fuel + 1, '%' :: cs =>
    let (flag, rest) : Option Char × List Char := match cs with
      | c :: rest =>
        if ['-', '_', '0', '^', '#', ':'].contains c then (some c, rest) else (none, cs)
      | [] => (none, [])
    match rest with
    | [] => String.ofList ('%' :: cs)
    | c :: more =>
      match timeLetter? flag seconds c with
      | some t => t ++ timeText seconds fuel more
      | none =>
        String.ofList ('%' :: cs.take (cs.length - more.length)) ++ timeText seconds fuel more
  | fuel + 1, c :: cs => c.toString ++ timeText seconds fuel cs

/-! ## 3. Reading -/

/-- The number that some digits write. -/
def digitsOf? (cs : List Char) : Option Nat := if cs.isEmpty ∨ ¬ cs.all Char.isDigit then none
  else some (cs.foldl (fun n c => n * 10 + (c.toNat - 48)) 0)

/-- The day that a text writes. -/
def dayOf? (s : String) : Option Day := do
  match (s.splitOn "-").map String.toList with
  | [y, m, d] =>
    let day : Day := ⟨← digitsOf? y, ← digitsOf? m, ← digitsOf? d⟩
    if day.isReal then some day else none
  | _ => none

/-- The seconds of the day that a text writes. -/
def clockOf? (s : String) : Option Nat := do
  let parts ← ((s.splitOn ":").mapM fun p => digitsOf? p.toList)
  match parts with
  | [h, m] => if h < 24 ∧ m < 60 then some (h * 3600 + m * 60) else none
  | [h, m, s] => if h < 24 ∧ m < 60 ∧ s ≤ 60 then some (h * 3600 + m * 60 + s) else none
  | _ => none

/-- The time that a text writes, if it is `now`. -/
def timeOf? (now : Int) (s : String) : Option Int :=
  let today := Int.fdiv now 86400 * 86400
  let words := (s.splitOn " ").filter (· ≠ "")
  let words := words.filter fun w => !(["UTC", "Z", "GMT", "utc", "+0000", "+00:00"].contains w)
  match words with
  | [] => some (if s = "" then today else now)
  | ["now"] | ["today"] => some now
  | ["yesterday"] => some (now - 86400)
  | ["tomorrow"] => some (now + 86400)
  | [w] =>
    match w.toList with
    | '@' :: '-' :: cs => (digitsOf? cs).map fun n => -(n : Int)
    | '@' :: cs => (digitsOf? cs).map fun n => (n : Int)
    | _ =>
      match w.splitOn "T" with
      | [d, t] => do return (← dayOf? d).count * 86400 + (← clockOf? (withoutEnding t "Z"))
      | _ =>
        match dayOf? w, clockOf? w with
        | some d, _ => some (d.count * 86400)
        | none, some n => some (today + n)
        | none, none => none
  | [d, t] => do return (← dayOf? d).count * 86400 + (← clockOf? t)
  | _ => none

/-- The time at which all begins. -/
def firstTime : Int := 1700000000

/-- Shows times. -/
def date (args : List String) : Act Nat := do
  let table := (((OptionTable.letters "uR" "drsf").withFlags [("utc", "u"), ("universal", "u"),
    ("rfc-email", "R"), ("debug", "debug")]).withValues [("date", "d"), ("reference", "r"),
    ("set", "s"), ("file", "f"), ("rfc-3339", "rfc-3339")]).withLoose [("iso-8601", "I")]
  let g ← given { table with loose := "I" } 1 args
  let now := firstTime + ((← get).world.clock / 1000 : Nat)
  let chosen := ["d", "r", "f"].filter g.has
  if 1 < chosen.length then
    refuseUse 1 "the options to specify dates for printing are mutually exclusive"
  let format ← match g.operands with
    | [] => pure none
    | [a] =>
      match a.toList with
      | '+' :: cs => pure (some cs)
      | _ =>
        if chosen.isEmpty ∧ ¬ g.has "s" then refuse 1 ("invalid date " ++ quoted a)
        else
          refuseUse 1 ("the argument " ++ quoted a ++ " lacks a leading '+';\nwhen using an " ++
            "option to specify date(s), any non-option\nargument must be a format string " ++
            "beginning with '+'")
    | _ :: extra :: _ => refuseUse 1 ("extra operand " ++ quoted extra)
  let preset : Option String := match g.last? ["R", "I", "rfc-3339"] with
    | some "R" => some "%a, %d %b %Y %H:%M:%S %z"
    | some "I" =>
      match g.value? "I" with
      | some "hours" => some "%FT%H+00:00"
      | some "minutes" => some "%FT%H:%M+00:00"
      | some "seconds" => some "%FT%T+00:00"
      | some "ns" => some "%FT%T,%N+00:00"
      | _ => some "%F"
    | some _ => if g.value? "rfc-3339" = some "date" then some "%F" else some "%F %T+00:00"
    | none => none
  let format := match format, preset with
    | some cs, _ => cs
    | none, some t => t.toList
    | none, none => "%a %b %e %H:%M:%S %Z %Y".toList
  let tell (n : Int) : Act Nat := printAll (timeText n (format.length + 1) format ++ "\n")
  match g.value? "d", g.value? "r", g.value? "f" with
  | some d, _, _ =>
    match timeOf? now d with
    | some n => tell n
    | none => refuse 1 ("invalid date " ++ quoted d)
  | _, some path, _ =>
    match ← resolve path with
    | .ok _ => tell now
    | .error e => refuse 1 (path ++ ": " ++ e.text)
  | _, _, some path =>
    match ← inputText path with
    | .error e => refuse 1 (path ++ ": " ++ e.text)
    | .ok text =>
      (lines text).foldlM (fun status l => do
        match timeOf? now l with
        | some n => let _ ← tell n; return status
        | none =>
          complain ("invalid date " ++ quoted l)
          return 1) 0
  | none, none, none =>
    match g.value? "s" with
    | some s =>
      if (timeOf? now s).isNone then refuse 1 ("invalid date " ++ quoted s)
      else refuse 1 "cannot set date: Operation not permitted"
    | none => tell now

end TidyTree.Tool
