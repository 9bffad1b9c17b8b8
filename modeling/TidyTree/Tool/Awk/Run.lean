/-
TidyTree.Tool.Awk.Run — running programs.

Expressions give values and statements are carried out; what leaves them
early is a jump.  The fuel bounds how deep expressions, statements and
calls of functions are nested.
-/
import TidyTree.Tool.Awk.State

namespace TidyTree.Tool.Awk

open Shell

/-! ## 1. Places -/

/-- Where a value can be kept. -/
inductive Place where
  | named (name : String)
  | field (x : Float)
  | row (table id : Nat)

/-- The value that is kept at a place. -/
def Place.value : Place → Run Value
  | named name => valueOf name
  | field x => fieldAt x
  | row table id => withTable table fun t => (t, t.valueAt id)

/-- Keeps a value at a place. -/
def Place.set (p : Place) (v : Value) : Run Unit :=
  match p with
  | named name => setVariable name v
  | field x => setField x v
  | row table id => withTable table fun t => (t.setAt id v, ())

/-- The row of a table that a value names, which is made if it is missing. -/
def rowOf (table : Nat) (key : Value) : Run Place := do
  let format ← textFormat
  match ← withTable table fun t => t.find true format key with
  | some row => return .row table row
  | none => fatal "no room for a row"

/-! ## 2. Functions of texts -/

/-- The text that takes the place of what was found: a sign stands for that, unless there is a
backslash in front of it. -/
def replacementFor (found : String) : (fuel : Nat) → List Char → String
  | 0, _ => ""
  | _ + 1, [] => ""
  | fuel + 1, '\\' :: '&' :: cs => "&" ++ replacementFor found fuel cs
  | fuel + 1, '\\' :: '\\' :: '&' :: cs => "\\" ++ found ++ replacementFor found fuel cs
  | fuel + 1, '&' :: cs => found ++ replacementFor found fuel cs
  | fuel + 1, c :: cs => c.toString ++ replacementFor found fuel cs

/-- Replaces what an expression fits, once or everywhere; gives how often. -/
def replaced (r : Regex) (replacement : List Char) (everywhere : Bool) (x : Subject) :
    (fuel : Nat) → (place : Nat) → (barred : Option Nat) → String × Nat
  | 0, _, _ => ("", 0)
  | fuel + 1, place, barred =>
    let rest := String.ofList (x.text.extract place x.text.size).toList
    match r.find? x place with
    | none => (rest, 0)
    | some f =>
      let before := String.ofList (x.text.extract place f.first).toList
      let next := ((x.text[f.first]?).map Char.toString).getD ""
      let found := String.ofList (x.text.extract f.first f.last).toList
      let new := replacementFor found (replacement.length + 1) replacement
      if f.first = f.last then
        -- nothing was found at this place, so one character is passed over
        let (front, count) := if barred = some f.first then ("", 0) else (new, 1)
        if f.first = x.text.size then (before ++ front, count)
        else if everywhere = false then
          (before ++ front ++ String.ofList (x.text.extract f.first x.text.size).toList, count)
        else
          let (more, n) := replaced r replacement everywhere x fuel (f.first + 1) none
          (before ++ front ++ next ++ more, count + n)
      else if everywhere = false then
        (before ++ new ++ String.ofList (x.text.extract f.last x.text.size).toList, 1)
      else
        let (more, n) := replaced r replacement everywhere x fuel f.last (some f.last)
        (before ++ new ++ more, n + 1)

/-- The part of a text from a character on, counted from one; what lies outside counts but is not
there. -/
def partOf (s : String) (first : Int) (count : Option Int) : String :=
  let size : Int := s.length
  let last := match count with
    | some n => min size (first + n - 1)
    | none => size
  let first := max 1 first
  if last < first then ""
  else String.ofList ((s.toList.drop (first - 1).toNat).take (last - first + 1).toNat)

/-- The place of a text in another one, counted from one, or zero. -/
def placeOf (s t : List Char) : (number : Nat) → Nat
  | number =>
    match s with
    | [] => if t.isEmpty then number else 0
    | _ :: rest => if t.isPrefixOf s then number else placeOf rest t (number + 1)
termination_by structural s

/-- The next number of a row that looks like chance. -/
def nextSeed (seed : Nat) : Nat :=
  (seed * 6364136223846793005 + 1442695040888963407) % Decimal.twoTo 64

/-- Whether an expression fits some part of a text. -/
def fitsIn (r : Regex) (text : String) : Bool :=
  (r.find? ⟨text.toList.toArray, false, false⟩ 0).isSome

/-! ## 3. Records that are asked for -/

/-- The next record of a file or a command, which is opened if it was not; gives whether there is
one, or nothing if it cannot be opened. -/
def recordFrom (name : String) (isCommand : Bool) : Run (Option (Option String)) := do
  let isIt (s : Source) : Bool := s.name = name && s.isCommand = isCommand
  let source? ← do
    match (← get).sources.find? isIt with
    | some s => pure (some s)
    | none =>
      if isCommand then
        writeAll
        let (status, text) ← runText name none true
        pure (some (⟨name, true, text.toList, status⟩ : Source))
      else
        match ← act (inputText (if name = "/dev/stdin" then "-" else name)) with
        | .ok text => pure (some ⟨name, false, text.toList, 0⟩)
        | .error _ => pure none
  match source? with
  | none => return none
  | some source =>
    let next ← recordIn (← textIn "RS") source.rest
    let rest := (next.map Prod.snd).getD []
    modify fun s => { s with sources := { source with rest } :: s.sources.filter fun t => !isIt t }
    return some (next.map Prod.fst)

/-- Ends reading from and printing to something; gives the status. -/
def closeNamed (name : String) : Run Float := do
  let s ← get
  let sinks := s.sinks.filter (·.name = name)
  let sources := s.sources.filter (·.name = name)
  set { s with
    sinks := s.sinks.filter (·.name ≠ name)
    sources := s.sources.filter (·.name ≠ name) }
  if ¬ sinks.isEmpty then writePrinted
  let statuses ← sinks.mapM Sink.closed
  match statuses ++ sources.map (·.status) with
  | [] => return -1.0
  | status :: _ => return Float.ofNat status

/-! ## 4. Values and statements -/

/-- Does rounds until there is one after which there is no other. -/
def goRound (round : Run Bool) : (limit : Nat) → Run Unit
  | 0 => pure ()
  | limit + 1 => do if ← round then goRound round limit

/-- Does the body of a loop once; gives whether the loop goes on. -/
def onceRound (body : Run Unit) : Run Bool :=
  tryCatch (do body; return true) fun
    | .leaveLoop => return false
    | .nextRound => return true
    | j => throw j

/-- Does the body of a function; gives its value. -/
def valueBack (body : Run Unit) : Run Value :=
  tryCatch (do body; return .unset) fun
    | .giveBack v => return v
    | j => throw j

/-- What a parameter stands for when a function begins, and the table that comes of it if the
function asks for one. -/
def slotForName (name : String) : Run (Slot × Option Nat) := do
  match ← slotOf name with
  | some (.table id) => return (.table id, none)
  | some (.possible id) => return (.possible id, some id)
  | some (.scalar .unset) | none =>
    if name = "NF" then return (.scalar (← valueOf name), none)
    else
      let id ← addTable
      return (.possible id, some id)
  | some (.scalar _) => return (.scalar (← valueOf name), none)

mutual

/-- The value of an expression. -/
def valueFor : (fuel : Nat) → Expr → Run Value
  | 0, _ => fatal "function call nesting too deep"
  | fuel + 1, e => do
    match e with
    | .number x => return .number x
    | .text s => return .text s
    | .pattern r => return .ofBool (fitsIn r (← textOf (← get).record))
    | .grouped a => valueFor fuel a
    | .named name => valueOf name
    | .field _ | .element _ _ => (← placeFor fuel e).value
    | .assign operation target value =>
      let place ← placeFor fuel target
      let v ← valueFor fuel value
      let new ← match operation with
        | none => pure v
        | some o => pure (.number (o.apply (← place.value).toNumber v.toNumber))
      place.set new
      return new
    | .step before up target =>
      let place ← placeFor fuel target
      let old := (← place.value).toNumber
      let new := if up then old + 1 else old - 1
      place.set (.number new)
      return .number (if before then new else old)
    | .binary o a b =>
      let x ← valueFor fuel a
      let y ← valueFor fuel b
      return .number (o.apply x.toNumber y.toNumber)
    | .negative a => return .number (-(← valueFor fuel a).toNumber)
    | .positive a => return .number (← valueFor fuel a).toNumber
    | .opposite a => return .ofBool (!(← valueFor fuel a).isTrue)
    | .compared r a b =>
      let x ← valueFor fuel a
      let y ← valueFor fuel b
      return .ofBool (r.holds (← textFormat) x y)
    | .fits negated a b =>
      let text ← textOf (← valueFor fuel a)
      return .ofBool (fitsIn (← regexFor fuel b) text != negated)
    | .joined a b =>
      let x ← textOf (← valueFor fuel a)
      return .text (x ++ (← textOf (← valueFor fuel b)))
    | .both a b =>
      if (← valueFor fuel a).isTrue then return .ofBool (← valueFor fuel b).isTrue
      else return .ofBool false
    | .either a b =>
      if (← valueFor fuel a).isTrue then return .ofBool true
      else return .ofBool (← valueFor fuel b).isTrue
    | .choice c a b => if (← valueFor fuel c).isTrue then valueFor fuel a else valueFor fuel b
    | .isIn subscripts table =>
      let key ← keyFor fuel subscripts
      let format ← textFormat
      let id ← tableOf table
      return .ofBool (← withTable id fun t => t.find false format key).isSome
    | .call function arguments => callFor fuel function arguments
    | .builtin f arguments => builtinFor fuel f arguments
    | .record source name place =>
      let name ← match name with
        | some n => textOf (← valueFor fuel n)
        | none => pure ""
      let found ← match source with
        | .input => pure (some (← nextRecordText fileLimit))
        | .file => recordFrom name false
        | .command => recordFrom name true
      match found with
      | none => return .number (-1.0)
      | some none => return .number 0.0
      | some (some text) =>
        if source = .input then
          countUp "NR"
          countUp "FNR"
        match place with
        | none => setRecord (.ofInput text)
        | some p => (← placeFor fuel p).set (.ofInput text)
        return .number 1.0

/-- The place that an expression stands for. -/
def placeFor : (fuel : Nat) → Expr → Run Place
  | 0, _ => fatal "function call nesting too deep"
  | fuel + 1, e => do
    match e with
    | .named name => return .named name
    | .field n => return .field (← valueFor fuel n).toNumber
    | .element table subscripts =>
      let key ← keyFor fuel subscripts
      rowOf (← tableOf table) key
    | .grouped a => placeFor fuel a
    | _ => fatal "not a place for values"

/-- The key that subscripts make. -/
def keyFor : (fuel : Nat) → List Expr → Run Value
  | 0, _ => fatal "function call nesting too deep"
  | fuel + 1, subscripts => do
    match subscripts with
    | [e] => valueFor fuel e
    | _ =>
      let texts ← textsFor fuel subscripts
      return .text ((← textIn "SUBSEP").intercalate texts)

/-- The texts of expressions. -/
def textsFor : (fuel : Nat) → List Expr → Run (List String)
  | 0, _ => fatal "function call nesting too deep"
  | _ + 1, [] => return []
  | fuel + 1, e :: es => do
    let first ← textOf (← valueFor fuel e)
    return first :: (← textsFor fuel es)

/-- The values of expressions. -/
def valuesFor : (fuel : Nat) → List Expr → Run (List Value)
  | 0, _ => fatal "function call nesting too deep"
  | _ + 1, [] => return []
  | fuel + 1, e :: es => do
    let first ← valueFor fuel e
    return first :: (← valuesFor fuel es)

/-- The regular expression that an expression stands for. -/
def regexFor : (fuel : Nat) → Expr → Run Regex
  | 0, _ => fatal "function call nesting too deep"
  | fuel + 1, e => do
    match e with
    | .pattern r => return r
    | .grouped a => regexFor fuel a
    | _ => regexOfText (← textOf (← valueFor fuel e))

/-- Calls a function of the program. -/
def callFor : (fuel : Nat) → (name : String) → List Expr → Run Value
  | 0, _, _ => fatal "function call nesting too deep"
  | fuel + 1, name, arguments => do
    match (← get).program.functions.lookup name with
    | none => fatal ("function " ++ name ++ " never defined")
    | some f =>
      if f.parameters.length < arguments.length then
        fatal ("too many arguments in call to " ++ name)
      let given ← argumentsFor fuel arguments
      let missing ← (f.parameters.drop given.length).mapM fun _ => do
        let id ← addTable
        return (Slot.possible id, (none : Option (String × Nat)))
      let outer := (← get).locals
      modify fun s => { s with locals := f.parameters.zip ((given ++ missing).map (·.1)) }
      let v ← valueBack (bodyFor fuel f.body)
      modify fun s => { s with locals := outer }
      let asked := (← get).asked
      given.forM fun g => do
        match g.2 with
        | some (n, id) => if asked.contains id then setSlot n (.table id)
        | none => pure ()
      return v

/-- What parameters stand for, each with the name and the table that may come of it. -/
def argumentsFor : (fuel : Nat) → List Expr → Run (List (Slot × Option (String × Nat)))
  | 0, _ => fatal "function call nesting too deep"
  | _ + 1, [] => return []
  | fuel + 1, e :: es => do
    let first ← match e with
      | .named n => do
        let (slot, id) ← slotForName n
        pure (slot, id.map fun i => (n, i))
      | _ => do pure (Slot.scalar (← valueFor fuel e), none)
    return first :: (← argumentsFor fuel es)

/-- The value of a function that every program has. -/
def builtinFor : (fuel : Nat) → Builtin → List Expr → Run Value
  | 0, _, _ => fatal "function call nesting too deep"
  | fuel + 1, f, arguments => do
    let textAt (n : Nat) : Run String := do
      match arguments[n]? with
      | some e => textOf (← valueFor fuel e)
      | none => return ""
    let numberAt (n : Nat) : Run Float := do
      match arguments[n]? with
      | some e => return (← valueFor fuel e).toNumber
      | none => return 0.0
    let ofNumber (g : Float → Float) : Run Value := do return .number (g (← numberAt 0))
    match f with
    | .length =>
      match arguments with
      | [] => return .number (Float.ofNat (← textOf (← get).record).length)
      | [.named n] =>
        match ← slotOf n with
        | some (.table id) => return .number (Float.ofNat (← withTable id fun t => (t, t.size)))
        | _ => return .number (Float.ofNat (← textAt 0).length)
      | _ => return .number (Float.ofNat (← textAt 0).length)
    | .substr =>
      let s ← textAt 0
      let first := wholeOf (← numberAt 1)
      let count ← if arguments.length < 3 then pure none
        else pure (some (wholeOf (← numberAt 2)))
      return .text (partOf s first count)
    | .index =>
      let s ← textAt 0
      let t ← textAt 1
      return .number (Float.ofNat (placeOf s.toList t.toList 1))
    | .split =>
      let s ← textAt 0
      match arguments with
      | _ :: .named name :: rest =>
        let separator ← match rest with
          | [] => separatorOf (← textIn "FS")
          | e :: _ =>
            match e with
            | .pattern r => pure (.fitting r)
            | _ => separatorOf (← textAt 2)
        let parts := separator.split s
        let id ← tableOf name
        withTable id fun _ => (Table.ofList (parts.map Value.ofInput), ())
        return .number (Float.ofNat parts.length)
      | _ => fatal "improper use of split"
    | .sub | .gsub =>
      match arguments with
      | pattern :: _ :: rest =>
        let r ← regexFor fuel pattern
        let new ← textAt 1
        let place ← match rest.head? with
          | some e => placeFor fuel e
          | none => pure (.field 0.0)
        let text ← textOf (← place.value)
        let x : Subject := ⟨text.toList.toArray, false, false⟩
        let (result, count) := replaced r new.toList (f = .gsub) x (2 * text.length + 3) 0 none
        if count ≠ 0 then place.set (.ofInput result)
        return .number (Float.ofNat count)
      | _ => fatal "improper use of sub"
    | .matching =>
      match arguments with
      | [_, pattern] =>
        let text ← textAt 0
        let found := (← regexFor fuel pattern).find? ⟨text.toList.toArray, false, false⟩ 0
        let (start, length) := match found with
          | some f => (Float.ofNat (f.first + 1), Float.ofNat (f.last - f.first))
          | none => (0.0, -1.0)
        setVariable "RSTART" (.number start)
        setVariable "RLENGTH" (.number length)
        return .number start
      | _ => fatal "improper use of match"
    | .sprintf =>
      match ← valuesFor fuel arguments with
      | [] => fatal "no arguments in call to sprintf"
      | v :: vs =>
        let (text, fault) ← layOutFor v vs
        match fault with
        | some e => fatal e
        | none => return .text text
    | .sin => ofNumber Float.sin
    | .cos => ofNumber Float.cos
    | .atan2 =>
      let y ← numberAt 0
      return .number (Float.atan2 y (← numberAt 1))
    | .exp => ofNumber Float.exp
    | .log => ofNumber Float.log
    | .sqrt => ofNumber Float.sqrt
    | .int =>
      let x ← numberAt 0
      return .number (if x < 0 then x.ceil else x.floor)
    | .rand =>
      modify fun s => { s with seed := nextSeed s.seed }
      return .number
        (Float.ofNat ((← get).seed / Decimal.twoTo 12) / Float.ofNat (Decimal.twoTo 52))
    | .srand =>
      let old := (← get).seed
      let seed := (wholeOf (← numberAt 0)).toNat
      modify fun s => { s with seed }
      return .number (Float.ofNat old)
    | .lower => return .text ((← textAt 0).map Char.toLower)
    | .upper => return .text ((← textAt 0).map Char.toUpper)
    | .system =>
      let command ← textAt 0
      writeAll
      return .number (Float.ofNat (← runText command none false).1)
    | .close => return .number (← closeNamed (← textAt 0))
    | .flush =>
      let name ← textAt 0
      let known := arguments.isEmpty || name = "" || (← get).sinks.any (·.name = name)
      writeAll
      return .number (if known then 0.0 else -1.0)
    | .time => return .number (Float.ofNat (1700000000 + (← act get).world.clock / 1000))

/-- Lays out values in the way of a text. -/
def layOutFor (v : Value) (vs : List Value) : Run LaidOut := do
  let format ← textFormat
  let layout ← textOf v
  return layOut (Value.toText format) layout (layout.length + 1) layout.toList vs

/-- Carries out statements. -/
def bodyFor : (fuel : Nat) → List Statement → Run Unit
  | 0, _ => fatal "function call nesting too deep"
  | _ + 1, [] => pure ()
  | fuel + 1, s :: rest => do
    carryOut fuel s
    bodyFor fuel rest

/-- Prints a text to a destination. -/
def printTo : (fuel : Nat) → Destination → String → Run Unit
  | 0, _, _ => fatal "function call nesting too deep"
  | fuel + 1, out, text => do
    match out with
    | .output => modify fun s => { s with printed := text :: s.printed }
    | .file name appends =>
      let name ← textOf (← valueFor fuel name)
      printInto name false appends text
    | .command command =>
      let command ← textOf (← valueFor fuel command)
      printInto command true false text

/-- Carries out a statement. -/
def carryOut : (fuel : Nat) → Statement → Run Unit
  | 0, _ => fatal "function call nesting too deep"
  | fuel + 1, s => do
    match s with
    | .compute e => let _ ← valueFor fuel e
    | .print values out =>
      let ending ← textIn "ORS"
      if values.isEmpty then printTo fuel out ((← textOf (← get).record) ++ ending)
      else
        let format ← textIn "OFMT"
        let vs ← valuesFor fuel values
        let between ← textIn "OFS"
        printTo fuel out (between.intercalate (vs.map (Value.toText format)) ++ (← textIn "ORS"))
    | .printf values out =>
      match ← valuesFor fuel values with
      | [] => pure ()
      | v :: vs =>
        let (text, fault) ← layOutFor v vs
        printTo fuel out text
        match fault with
        | some e => fatal e
        | none => pure ()
    | .ifElse condition a b =>
      if (← valueFor fuel condition).isTrue then bodyFor fuel a else bodyFor fuel b
    | .loop testedFirst condition body after =>
      let holds : Run Bool := do
        match condition with
        | none => return true
        | some c => return (← valueFor fuel c).isTrue
      let begins ← if testedFirst then holds else pure true
      if begins then
        let round : Run Bool := do
          if ← onceRound (bodyFor fuel body) then
            bodyFor fuel after
            holds
          else return false
        goRound round roundLimit
    | .forIn name table body =>
      let id ← tableOf table
      let names ← withTable id Table.names
      let each (n : String) : Run Bool := do
        setVariable name (.text n)
        onceRound (bodyFor fuel body)
      let rec go : List String → Run Unit
        | [] => pure ()
        | n :: ns => do if ← each n then go ns
      go names
    | .block body => bodyFor fuel body
    | .leaveLoop => throw .leaveLoop
    | .nextRound => throw .nextRound
    | .nextRecord => throw .nextRecord
    | .nextFile => throw .nextFile
    | .exit status =>
      match status with
      | some e =>
        let n := wholeOf (← valueFor fuel e).toNumber
        modify fun s => { s with status := (n % 256).toNat }
      | none => pure ()
      throw .exit
    | .giveBack value =>
      match value with
      | some e => throw (.giveBack (← valueFor fuel e))
      | none => throw (.giveBack .unset)
    | .remove table subscripts =>
      let id ← tableOf table
      match subscripts with
      | [] => withTable id fun _ => (.empty, ())
      | _ =>
        let key ← keyFor fuel subscripts
        let format ← textFormat
        withTable id fun t =>
          match t.find false format key with
          | (t, some row) => (t.remove row, ())
          | (t, none) => (t, ())

end

/-! ## 5. Programs -/

/-- How deep expressions, statements and calls may be nested. -/
def nesting : Nat := 20000

/-- Whether an action is carried out for the record. -/
def Pattern.isMet : Pattern → Run Bool
  | begin | finish => return false
  | always => return true
  | when condition => return (← valueFor nesting condition).isTrue
  | range number first last => do
    let inside := (← get).ranges.contains number
    let begins ← if inside then pure true else do pure (← valueFor nesting first).isTrue
    if ¬ begins then return false
    else
      let ends := (← valueFor nesting last).isTrue
      modify fun s =>
        let others := s.ranges.filter (· ≠ number)
        { s with ranges := if ends then others else number :: others }
      return true

/-- Carries out the actions for the record. -/
def runRules : List Rule → Run Unit
  | [] => pure ()
  | r :: rs => do
    if ← r.pattern.isMet then bodyFor nesting r.action
    runRules rs

/-- Carries out the actions for the next record, if there is one. -/
def nextRound (rules : List Rule) : Run Bool := do
  match ← nextRecordText fileLimit with
  | none => return false
  | some text =>
    countUp "NR"
    countUp "FNR"
    setRecord (.ofInput text)
    tryCatch (do runRules rules; return true) fun
      | .nextRecord => return true
      | .nextFile => do
        modify fun s => { s with reading := none }
        return true
      | j => throw j

/-- Carries out something up to where the program is left; gives whether it was left. -/
def upToExit (a : Run Unit) : Run Bool :=
  tryCatch (do a; return false) fun
    | .exit => do
      modify fun s => { s with locals := [] }
      return true
    | j => throw j

/-- Runs a program. -/
def runProgramRules : Run Unit := do
  let rules := (← get).program.rules
  let timed (isIt : Pattern → Bool) : List Statement :=
    (rules.filter fun r => isIt r.pattern).flatMap (·.action)
  let start := timed fun
    | .begin => true
    | _ => false
  let finish := timed fun
    | .finish => true
    | _ => false
  let isTimed (r : Rule) : Bool := match r.pattern with
    | .begin | .finish => true
    | _ => false
  let onRecords := rules.filter fun r => !isTimed r
  let isLeft ← upToExit (bodyFor nesting start)
  let hasEnd := rules.any fun r => match r.pattern with
    | .finish => true
    | _ => false
  let isLeft ← if isLeft ∨ (onRecords.isEmpty ∧ ¬ hasEnd) then pure isLeft
    else upToExit (goRound (nextRound onRecords) roundLimit)
  let _ := isLeft
  if hasEnd then let _ ← upToExit (bodyFor nesting finish)
  closeAll

/-! ## 6. The tool -/

/-- The variables that a program has from the start. -/
def startValues : List (String × Value) :=
  [("FS", .text " "), ("OFS", .text " "), ("ORS", .text "\n"), ("RS", .text "\n"),
    ("SUBSEP", .text "\x1c"), ("CONVFMT", .text "%.6g"), ("OFMT", .text "%.6g"), ("NR", .number 0),
    ("FNR", .number 0), ("FILENAME", .text ""), ("RSTART", .number 0), ("RLENGTH", .number (-1))]

/-- The arguments in front of the program. -/
structure Options where
  separator : Option String
  settings : List String
  files : List String

/-- Reads the options; gives what follows them.  A long option ends the tool. -/
def optionsFrom : (fuel : Nat) → List String → Options → Act (Options × List String)
  | 0, args, o => return (o, args)
  | _ + 1, [], o => return (o, [])
  | fuel + 1, a :: args, o => do
    match a.toList with
    | ['-', '-'] => return (o, args)
    | '-' :: '-' :: cs =>
      let name := String.ofList cs
      if ["version", "help", "usage"].any fun n => name.toList.isPrefixOf n.toList then stop 0
      else refuse 2 ("not an option: " ++ a)
    | '-' :: c :: cs =>
      if ¬ ['F', 'v', 'f', 'W'].contains c then refuse 2 ("not an option: " ++ a)
      else
        let (value?, rest) := if cs.isEmpty then (args.head?, args.drop 1)
          else (some (String.ofList cs), args)
        match value? with
        | none => refuse 2 ("option requires an argument -- " ++ c.toString)
        | some value =>
          if c = 'F' then optionsFrom fuel rest { o with separator := some value }
          else if c = 'v' then optionsFrom fuel rest { o with settings := o.settings ++ [value] }
          else if c = 'f' then optionsFrom fuel rest { o with files := o.files ++ [value] }
          else if "version".toList.isPrefixOf value.toList ∨ value = "v" ∨ value = "help" ∨
              value = "usage" then
            stop 0
          else optionsFrom fuel rest o
    | _ => return (o, a :: args)

/-- Runs a program. -/
def awk (perform : Performer) (args : List String) : Act Nat := do
  let (o, operands) ← optionsFrom (args.length + 1) args ⟨none, [], []⟩
  let (text, operands) ←
    if o.files.isEmpty then
      match operands with
      | [] =>
        say ("Usage: " ++ (← get).name ++ " [Options] [Program] [file ...]\n")
        stop 0
      | text :: rest => pure (text, rest)
    else do
      let texts ← o.files.mapM fun path => do
        match ← inputText path with
        | .ok text => return text
        | .error e => refuse 2 ("cannot open \"" ++ path ++ "\" (" ++ e.text ++ ")")
      pure ("\n".intercalate texts, operands)
  match Program.ofText text with
  | .error e => refuse 2 ("line " ++ toString e.line ++ ": " ++ e.text)
  | .ok program =>
    let name := lastComponent (← get).name
    let arguments := Table.ofList (operands.map Value.ofInput)
    let arguments := match arguments.findNumber true 0 with
      | (t, some id) => t.setAt id (.text name)
      | (t, none) => t
    let environment := (← get).inherited.foldl (fun (t : Table) (n, v) =>
      match t.findName true n with
      | (t, some id) => t.setAt id (.ofInput v)
      | (t, none) => t) .empty
    let start : State :=
      { program, perform
        globals := [("ARGV", .table 0), ("ENVIRON", .table 1),
          ("ARGC", .scalar (.number (Float.ofNat (operands.length + 1))))] ++
          startValues.map fun (n, v) => (n, .scalar v)
        locals := []
        tables := #[arguments, environment]
        asked := []
        record := .unset
        fields := #[]
        nextArgument := 1
        reading := none
        hadFile := false
        sources := []
        sinks := []
        printed := []
        ranges := []
        seed := 1
        status := 0 }
    let run : Run Unit := do
      match o.separator with
      | some s => setVariable "FS" (.text (String.ofList (unescaped (s.length + 1) s.toList)))
      | none => pure ()
      o.settings.forM fun s => do
        if ¬ (← assignArgument s) then fatal ("improper assignment: -v " ++ s)
      runProgramRules
    let (_, final) ← (run.run).run start
    return final.status

end TidyTree.Tool.Awk
