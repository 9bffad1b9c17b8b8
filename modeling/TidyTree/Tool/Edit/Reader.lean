/-
TidyTree.Tool.Edit.Reader — reading editing scripts.

A script comes in parts, from arguments or files.  Blocks and texts may
go on from one part to the next.  A fault is told with the place up to
which the part was read.
-/
import TidyTree.Regex.Reader
import TidyTree.Tool.Edit.Escape

namespace TidyTree.Tool.Edit

/-! ## 1. Faults -/

/-- Where a part of a script comes from. -/
inductive Source where
  | expression (number : Nat)
  | file (path : String)

/-- Why a text is no script. -/
inductive ScriptFault where
  | severalNegations
  | misplacedComma
  | misplacedCount
  | openBlock
  | closedBlock
  | extraCharacters
  | missingText
  | guardedEnd
  | guardedLabel
  | guardedComment
  | missingCommand
  | oneAddress
  | openRegex
  | openSubstitution
  | openExchange
  | unknownFlag
  | severalPrints
  | severalEverywhere
  | severalNumbers
  | zeroNumber
  | unevenExchange
  | newerVersion
  | lineZero
  | unknownCommand (c : Char)
  | missingLabel
  | missingFile
  | emptyWithFlags
  | badReference (n : Nat)
  | sandboxed
  | badRegex (e : RegexFault)

/-- What is wrong, in words. -/
def ScriptFault.message : ScriptFault → String
  | severalNegations => "multiple \x60!'s"
  | misplacedComma => "unexpected \x60,'"
  | misplacedCount => "invalid usage of +N or ~N as first address"
  | openBlock => "unmatched \x60\x7b'"
  | closedBlock => "unexpected \x60\x7d'"
  | extraCharacters => "extra characters after command"
  | missingText => "expected \\ after \x60a', \x60c' or \x60i'"
  | guardedEnd => "\x60\x7d' doesn't want any addresses"
  | guardedLabel => ": doesn't want any addresses"
  | guardedComment => "comments don't accept any addresses"
  | missingCommand => "missing command"
  | oneAddress => "command only uses one address"
  | openRegex => "unterminated address regex"
  | openSubstitution => "unterminated \x60s' command"
  | openExchange => "unterminated \x60y' command"
  | unknownFlag => "unknown option to \x60s'"
  | severalPrints => "multiple \x60p' options to \x60s' command"
  | severalEverywhere => "multiple \x60g' options to \x60s' command"
  | severalNumbers => "multiple number options to \x60s' command"
  | zeroNumber => "number option to \x60s' command may not be zero"
  | unevenExchange => "strings for \x60y' command are different lengths"
  | newerVersion => "expected newer version of sed"
  | lineZero => "invalid usage of line address 0"
  | unknownCommand c => "unknown command: \x60" ++ c.toString ++ "'"
  | missingLabel => "\":\" lacks a label"
  | missingFile => "missing filename in r/R/w/W commands"
  | emptyWithFlags => "cannot specify modifiers on empty regexp"
  | badReference n => "invalid reference \\" ++ toString n ++ " on \x60s' command's RHS"
  | sandboxed => "e/r/w commands disabled in sandbox mode"
  | badRegex e => e.message

/-! ## 2. State -/

/-- What was read of a script, and what is left of the part that is read. -/
structure ScriptReader where
  rest : List Char
  /-- How many characters of the part were read. -/
  read : Nat
  line : Nat
  source : Source
  /-- Whether the part is the first one. -/
  isFirst : Bool
  extended : Bool
  sandboxed : Bool
  steps : Array Step
  /-- The places of the blocks that are open, with where they were opened. -/
  blocks : List (Nat × Source × Nat)
  labels : List (String × Nat)
  jumps : List (Nat × JumpKind × String)
  outputs : List String
  /-- A command whose text may go on in the next part, and that text. -/
  pending : Option (Nat × List Char)
  quiet : Bool

/-- A reader before the first part. -/
def ScriptReader.start : ScriptReader where
  rest := []
  read := 0
  line := 0
  source := .expression 0
  isFirst := true
  extended := false
  sandboxed := false
  steps := #[]
  blocks := []
  labels := []
  jumps := []
  outputs := []
  pending := none
  quiet := false

/-- Reading a part of a script. -/
abbrev ScriptParse := EStateM ScriptFault ScriptReader

/-- The next character. -/
def nextChar : ScriptParse (Option Char) := do
  let s ← get
  match s.rest with
  | [] => return none
  | c :: rest =>
    set { s with rest, read := s.read + 1, line := if c = '\n' then s.line + 1 else s.line }
    return some c

/-- Goes back before a character. -/
def putBack : Option Char → ScriptParse Unit
  | none => pure ()
  | some c => modify fun s =>
    { s with
      rest := c :: s.rest
      read := s.read - 1
      line := if c = '\n' then s.line - 1 else s.line }

/-- Passes over characters. -/
def skipWhile (test : Char → Bool) : ScriptParse Unit := do
  let s ← get
  let passed := s.rest.takeWhile test
  set { s with
    rest := s.rest.drop passed.length
    read := s.read + passed.length
    line := s.line + (passed.filter (· = '\n')).length }

/-- Takes characters as long as they pass a test. -/
def takeChars (test : Char → Bool) : ScriptParse (List Char) := do
  let taken := (← get).rest.takeWhile test
  skipWhile test
  return taken

/-- The next character that is no blank. -/
def nextShown : ScriptParse (Option Char) := do
  skipWhile CharClass.blank.has
  nextChar

/-- The number that begins with a character, or zero. -/
def numberFrom (first : Option Char) : ScriptParse Nat := do
  putBack first
  let ds ← takeChars Char.isDigit
  return ds.foldl (fun n d => n * 10 + (d.toNat - 48)) 0

/-- Requires that the command ends here. -/
def endCommand : ScriptParse Unit := do
  match ← nextShown with
  | none | some '\n' | some ';' => pure ()
  | some c => if c = '\x7d' ∨ c = '#' then putBack (some c) else throw .extraCharacters

/-! ## 3. Texts between delimiters -/

/-- What a bracket in an expression is passed for. -/
inductive InBracket where
  | outside
  /-- Whether a closing bracket stands for itself. -/
  | within (atStart : Bool)
  /-- Within a class, which ends with a sign and a bracket. -/
  | named (sign : Char)

/-- Reads up to the delimiter, which is passed over; the result is none if it is missing.  Behind a
backslash the delimiter is taken for itself. -/
def delimitedFrom (slash : Char) (isRegex : Bool) : (fuel : Nat) → InBracket → List Char →
    ScriptParse (Option (List Char))
  | 0, _, _ => return none
  | fuel + 1, b, done => do
    match ← nextChar with
    | none => return none
    | some '\n' =>
      putBack (some '\n')
      return none
    | some c =>
      match b with
      | .outside =>
        if c = slash then return some done.reverse
        else if c = '\\' then
          match ← nextChar with
          | none => return none
          | some d =>
            if d = slash ∧ (isRegex ∨ d ≠ '&') then delimitedFrom slash isRegex fuel b (d :: done)
            else if d = 'n' ∧ isRegex then delimitedFrom slash isRegex fuel b ('\n' :: done)
            else if d = '\n' then delimitedFrom slash isRegex fuel b (d :: done)
            else delimitedFrom slash isRegex fuel b (d :: '\\' :: done)
        else if c = '[' ∧ isRegex then
          match (← get).rest with
          | '^' :: _ =>
            let _ ← nextChar
            delimitedFrom slash isRegex fuel (.within true) ('^' :: '[' :: done)
          | _ => delimitedFrom slash isRegex fuel (.within true) ('[' :: done)
        else delimitedFrom slash isRegex fuel b (c :: done)
      | .within atStart =>
        if c = ']' ∧ atStart = false then delimitedFrom slash isRegex fuel .outside (c :: done)
        else
          match c, (← get).rest with
          | '[', sign :: _ =>
            if sign = ':' ∨ sign = '.' ∨ sign = '=' then
              let _ ← nextChar
              delimitedFrom slash isRegex fuel (.named sign) (sign :: '[' :: done)
            else delimitedFrom slash isRegex fuel (.within false) ('[' :: done)
          | '\\', 'n' :: _ =>
            let _ ← nextChar
            delimitedFrom slash isRegex fuel (.within false) ('\n' :: done)
          | _, _ => delimitedFrom slash isRegex fuel (.within false) (c :: done)
      | .named sign =>
        let closes := c == sign && (← get).rest.head? == some ']'
        if closes then
          let _ ← nextChar
          delimitedFrom slash isRegex fuel (.within false) (']' :: c :: done)
        else delimitedFrom slash isRegex fuel b (c :: done)

/-- Reads up to the delimiter. -/
def delimited (slash : Char) (isRegex : Bool) : ScriptParse (Option (List Char)) := do
  delimitedFrom slash isRegex ((← get).rest.length + 1) .outside []

/-- Reads an expression; an empty one stands for the one that was used last. -/
def soughtOf (cs : List Char) (ignoreCase multiline : Bool) : ScriptParse (Option Sought) := do
  if cs.isEmpty then
    if ignoreCase ∨ multiline then throw .emptyWithFlags
    return none
  match Regex.ofText ⟨(← get).extended, true⟩ (plainRegex (cs.length + 1) cs) with
  | .ok (regex, groups) => return some ⟨regex, groups, ignoreCase, multiline⟩
  | .error e => throw (.badRegex e)

/-! ## 4. Addresses -/

/-- Reads the letters behind the expression of an address. -/
def addressFlags : (fuel : Nat) → Bool × Bool → ScriptParse (Bool × Bool)
  | 0, flags => return flags
  | fuel + 1, (ignoreCase, multiline) => do
    match ← nextShown with
    | some 'I' => addressFlags fuel (true, multiline)
    | some 'M' => addressFlags fuel (ignoreCase, true)
    | c =>
      putBack c
      return (ignoreCase, multiline)

/-- Reads an address that begins with a character, if it is one. -/
def addressFrom (first : Option Char) : ScriptParse (Option RangeEnd) := do
  match first with
  | none => return none
  | some c =>
    if c = '/' ∨ c = '\\' then
      let slash ← if c = '\\' then nextChar else pure (some '/')
      match slash with
      | none => throw .openRegex
      | some slash =>
        match ← delimited slash true with
        | none => throw .openRegex
        | some cs =>
          let (ignoreCase, multiline) ← addressFlags ((← get).rest.length + 1) (false, false)
          let sought ← soughtOf cs ignoreCase multiline
          return some (.picked (.holding sought))
    else if c.isDigit then
      let n ← numberFrom (some c)
      match ← nextShown with
      | some '~' =>
        let step ← numberFrom (← nextShown)
        return some (.picked (if step = 0 then .line n else .every n step))
      | d =>
        putBack d
        return some (.picked (.line n))
    else if c = '+' ∨ c = '~' then
      let n ← numberFrom (← nextShown)
      return some (if c = '+' then .later n else .multiple n)
    else if c = '$' then return some (.picked .last)
    else return none

/-- Reads the guard of a command that begins with a character; gives the character of the command,
too. -/
def guardFrom (c : Option Char) : ScriptParse (Guard × Option Char) := do
  let (first, last, c) ← (do
    match ← addressFrom c with
    | none => return (none, none, c)
    | some (.later _) | some (.multiple _) => throw .misplacedCount
    | some (.picked first) =>
      let c ← nextShown
      if c ≠ some ',' then return (some first, none, c)
      else
        match ← addressFrom (← nextShown) with
        | none => throw .misplacedComma
        | some last => return (some first, some last, ← nextShown)
    : ScriptParse (Option Address × Option RangeEnd × Option Char))
  match first, last with
  | some (.line 0), some (.picked (.holding _)) => pure ()
  | some (.line 0), _ => throw .lineZero
  | _, _ => pure ()
  if c ≠ some '!' then return (⟨first, last, false⟩, c)
  else
    let c ← nextShown
    if c = some '!' then throw .severalNegations
    return (⟨first, last, true⟩, c)

/-! ## 5. Parts of commands -/

/-- The number of the file to write to at a path. -/
def outputNumber (path : String) : ScriptParse Nat := do
  let s ← get
  match s.outputs.findIdx? (· = path) with
  | some n => return n
  | none =>
    set { s with outputs := s.outputs ++ [path] }
    return s.outputs.length

/-- Reads the name of a file, which goes on up to the end of the line. -/
def fileName : ScriptParse String := do
  if (← get).sandboxed then throw .sandboxed
  skipWhile CharClass.blank.has
  let cs ← takeChars (· ≠ '\n')
  let _ ← nextChar
  if cs.isEmpty then throw .missingFile
  return String.ofList cs

/-- Reads a label. -/
def label : ScriptParse String := do
  skipWhile CharClass.blank.has
  let cs ← takeChars fun c => !CharClass.space.has c && c ≠ ';' && c ≠ '\x7d'
  return String.ofList cs

/-- Reads the rest of the text of a command; `done` was read before, the last character first.  If
the part of the script ends behind a backslash the text may go on. -/
def textFrom (place : Nat) : (fuel : Nat) → List Char → ScriptParse (List Char)
  | 0, done => return done.reverse
  | fuel + 1, done => do
    match ← nextChar with
    | none | some '\n' =>
      modify fun s => { s with pending := none }
      return ('\n' :: done).reverse
    | some '\\' =>
      match ← nextChar with
      | none =>
        modify fun s => { s with pending := some (place, '\n' :: done) }
        return ('\n' :: done).reverse
      | some c => textFrom place fuel (c :: '\\' :: done)
    | some c => textFrom place fuel (c :: done)

/-- Reads the rest of the text of a command. -/
def restOfText (place : Nat) (done : List Char) : ScriptParse String := do
  let cs ← textFrom place ((← get).rest.length + 1) done
  return String.ofList (plainText (cs.length + 1) cs)

/-- Reads the text of a command. -/
def commandText : ScriptParse String := do
  let place := (← get).steps.size
  match ← nextShown with
  | none => throw .missingText
  | some '\\' =>
    match ← nextChar with
    | none =>
      modify fun s => { s with pending := some (place, []) }
      return ""
    | some '\n' => restOfText place []
    | some c =>
      restOfText place [c]
  | some c =>
    putBack (some c)
    restOfText place []

/-- The flags of a substitution. -/
structure SubstitutionFlags where
  ignoreCase : Bool
  multiline : Bool
  everywhere : Bool
  printed : Bool
  evaluated : Bool
  from? : Option Nat
  output : Option Nat

/-- Reads the flags of a substitution. -/
def substitutionFlags : (fuel : Nat) → SubstitutionFlags → ScriptParse SubstitutionFlags
  | 0, f => return f
  | fuel + 1, f => do
    match ← nextChar with
    | none | some '\n' | some ';' => return f
    | some c =>
      if c = '\x7d' ∨ c = '#' then
        putBack (some c)
        return f
      else if c = 'i' ∨ c = 'I' then substitutionFlags fuel { f with ignoreCase := true }
      else if c = 'm' ∨ c = 'M' then substitutionFlags fuel { f with multiline := true }
      else if c = 'e' then
        if (← get).sandboxed then throw .sandboxed
        substitutionFlags fuel { f with evaluated := true }
      else if c = 'p' then
        if f.printed then throw .severalPrints
        substitutionFlags fuel { f with printed := true }
      else if c = 'g' then
        if f.everywhere then throw .severalEverywhere
        substitutionFlags fuel { f with everywhere := true }
      else if c = 'w' then
        let path ← fileName
        let n ← outputNumber path
        return { f with output := some n }
      else if c.isDigit then
        if f.from?.isSome then throw .severalNumbers
        let n ← numberFrom (some c)
        if n = 0 then throw .zeroNumber
        substitutionFlags fuel { f with from? := some n }
      else if CharClass.blank.has c then substitutionFlags fuel f
      else throw .unknownFlag

/-- Reads a substitution. -/
def substitution : ScriptParse Substitution := do
  match ← nextChar with
  | none => throw .openSubstitution
  | some slash =>
    match ← delimited slash true with
    | none => throw .openSubstitution
    | some regex =>
      match ← delimited slash false with
      | none => throw .openSubstitution
      | some replacement =>
        let pieces := piecesOf replacement
        let f ← substitutionFlags ((← get).rest.length + 2)
          ⟨false, false, false, false, false, none, none⟩
        let sought ← soughtOf regex f.ignoreCase f.multiline
        let greatest := (pieces.filterMap Piece.group).foldl max 0
        if sought.any (·.groups < greatest) then throw (.badReference greatest)
        return ⟨sought, pieces, f.everywhere, f.from?, f.printed, f.evaluated, f.output⟩

/-- Reads which letters are exchanged. -/
def exchangeTable : ScriptParse (List (Char × Char)) := do
  match ← nextChar with
  | none => throw .openExchange
  | some slash =>
    match ← delimited slash false with
    | none => throw .openExchange
    | some source =>
      match ← delimited slash false with
      | none => throw .openExchange
      | some target =>
        let a := exchanged (unescaped (source.length + 1) source)
        let b := exchanged (unescaped (target.length + 1) target)
        if a.length ≠ b.length then throw .unevenExchange
        endCommand
        return a.zip b

/-- The version that the scripts are for, as its numbers. -/
def scriptVersion : List Nat := [4, 9]

/-- Whether a version is later than the one that the scripts are for. -/
def isNewer (version : String) : Bool :=
  let parts := (version.splitOn ".").map fun p =>
    p.toList.foldl (fun n d => if d.isDigit then n * 10 + (d.toNat - 48) else n) 0
  let rec later : List Nat → List Nat → Bool
    | [], _ => false
    | _ :: _, [] => true
    | a :: as, b :: bs => if a = b then later as bs else b < a
  later parts scriptVersion

/-! ## 6. Commands -/

/-- Adds a command. -/
def addStep (guard : Guard) (command : Command) : ScriptParse Unit :=
  modify fun s => { s with steps := s.steps.push ⟨guard, command⟩ }

/-- Commands that consist of their letter. -/
def plainCommand? : Char → Option Command
  | '=' => some .lineNumber
  | 'd' => some .delete
  | 'D' => some .deleteFirst
  | 'F' => some .fileName
  | 'g' => some .fetch
  | 'G' => some .fetchAppend
  | 'h' => some .hold
  | 'H' => some .holdAppend
  | 'n' => some .next
  | 'N' => some .nextAppend
  | 'p' => some .print
  | 'P' => some .printFirst
  | 'x' => some .exchange
  | 'z' => some .clear
  | _ => none

/-- The jump of a letter. -/
def jumpKind? : Char → Option JumpKind
  | 'b' => some .always
  | 't' => some .replaced
  | 'T' => some .notReplaced
  | _ => none

/-- Reads a comment. -/
def comment (guard : Guard) : ScriptParse Unit := do
  if guard.first.isSome then throw .guardedComment
  let s ← get
  let cs ← takeChars (· ≠ '\n')
  if cs.head? = some 'n' ∧ s.isFirst ∧ s.read = 1 then modify fun s => { s with quiet := true }

/-- Closes a block. -/
def closeBlock (guard : Guard) : ScriptParse Unit := do
  match (← get).blocks with
  | [] => throw .closedBlock
  | (place, _) :: blocks =>
    if guard.first.isSome then throw .guardedEnd
    endCommand
    modify fun s =>
      let close (step : Step) : Step := { step with command := .block s.steps.size }
      { s with blocks, steps := s.steps.modify place close }

/-- Reads what follows the letter of a command. -/
def commandFrom (guard : Guard) (c : Char) : ScriptParse Unit := do
  match plainCommand? c, jumpKind? c with
  | some command, _ =>
    endCommand
    addStep guard command
  | _, some kind =>
    let place := (← get).steps.size
    let name ← label
    modify fun s => { s with jumps := (place, kind, name) :: s.jumps }
    addStep guard .nothing
  | none, none =>
    if c = '#' then comment guard
    else if c = '\x7b' then
      modify fun s => { s with blocks := (s.steps.size, s.source, s.line) :: s.blocks }
      addStep guard (.block 0)
    else if c = '\x7d' then closeBlock guard
    else if c = ':' then
      if guard.first.isSome then throw .guardedLabel
      let name ← label
      if name = "" then throw .missingLabel
      modify fun s => { s with labels := s.labels ++ [(name, s.steps.size)] }
    else if c = 'a' then addStep guard (.append (← commandText))
    else if c = 'i' then addStep guard (.insert (← commandText))
    else if c = 'c' then addStep guard (.change (← commandText))
    else if c = 'e' then
      if (← get).sandboxed then throw .sandboxed
      skipWhile CharClass.blank.has
      let cs ← takeChars (· ≠ '\n')
      let _ ← nextChar
      addStep guard (.execute (String.ofList cs))
    else if c = 'q' ∨ c = 'Q' ∨ c = 'l' then
      if c ≠ 'l' ∧ guard.last.isSome then throw .oneAddress
      let d ← nextShown
      let n ← if d.any Char.isDigit then pure (some (← numberFrom d)) else do
        putBack d
        pure none
      endCommand
      addStep guard (if c = 'l' then .listed n else .quit (c = 'Q') (n.getD 0))
    else if c = 'r' then addStep guard (.readFile (← fileName))
    else if c = 'R' then addStep guard (.readLine (← fileName))
    else if c = 'w' then addStep guard (.write (← outputNumber (← fileName)))
    else if c = 'W' then addStep guard (.writeFirst (← outputNumber (← fileName)))
    else if c = 's' then addStep guard (.substitute (← substitution))
    else if c = 'y' then addStep guard (.exchangeLetters (← exchangeTable))
    else if c = 'v' then
      let version ← label
      if isNewer version then throw .newerVersion
    else throw (.unknownCommand c)

/-- Reads commands up to the end of a part. -/
def commandsFrom : (fuel : Nat) → ScriptParse Unit
  | 0 => pure ()
  | fuel + 1 => do
    skipWhile fun c => c = ';' || CharClass.space.has c
    match ← nextChar with
    | none => pure ()
    | some c =>
      let (guard, c) ← guardFrom (some c)
      match c with
      | none => throw .missingCommand
      | some c => commandFrom guard c
      commandsFrom fuel

/-- The command with another text. -/
def Command.withText (text : String) : Command → Command
  | .append _ => .append text
  | .insert _ => .insert text
  | .change _ => .change text
  | c => c

/-- Goes on with the text of a command from the last part. -/
def pendingText : ScriptParse Unit := do
  match (← get).pending with
  | none => pure ()
  | some (place, done) =>
    let text ← restOfText place done
    let change (step : Step) : Step := { step with command := step.command.withText text }
    modify fun s => { s with steps := s.steps.modify place change }

/-- Reads a part of a script. -/
def readPart (source : Source) (text : String) : ScriptParse Unit := do
  modify fun s =>
    { s with rest := text.toList, read := 0, line := 1, source := source }
  pendingText
  commandsFrom (text.length + 1)
  modify fun s => { s with isFirst := false }

/-- Puts the places of their labels into the jumps; the name of a label that is missing
otherwise. -/
def placeJumps (s : ScriptReader) : Except String (Array Step) :=
  s.jumps.foldr (fun (place, kind, name) steps => do
    let steps ← steps
    let target? := if name = "" then some steps.size else s.labels.lookup name
    match target? with
    | some target =>
      let aim (step : Step) : Step := { step with command := .jump kind target }
      return steps.modify place aim
    | none => throw name) (.ok s.steps)

end TidyTree.Tool.Edit
