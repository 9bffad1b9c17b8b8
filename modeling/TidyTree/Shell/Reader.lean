/-
TidyTree.Shell.Reader — reading the text of a script.

A reader holds what is left of the text and the number of the line.  A
text that is no script gives a fault, with the line at which it was
noticed.  Words are read here too: quotes and substitutions nest, and
each kind of nesting is a `Mode` with its own rules for what ends it and
what a backslash protects.  The commands inside a substitution are read
by a parameter, because commands are built on words; its `Extent` says
where they end.
-/
import TidyTree.Shell.Script

namespace TidyTree.Shell

/-! ## 1. The reader -/

/-- Why a text is no script. -/
structure Fault where
  line : Nat
  message : String
deriving DecidableEq, Repr

/-- A here-document that was announced on a line and begins after it. -/
structure Awaited where
  number : Nat
  delimiter : List Char
  /-- Whether its text is taken as it is. -/
  verbatim : Bool
  /-- Whether tabs in front of its lines are left out. -/
  stripTabs : Bool

/-- A token of a script. -/
inductive Token where
  | word (parts : List Part)
  | redirect (descriptor : Option Nat) (operator : String)
  | operator (s : String)
  | newline
  | endOfText

/-- What is left of a script. -/
structure Reader where
  rest : List Char
  line : Nat
  /-- Words that stand for other texts where a command begins. -/
  aliases : List (String × String)
  /-- The words whose texts are being read, with the length of what follows them. -/
  active : List (String × Nat)
  /-- The next token, if it was read already. -/
  ahead : Option Token
  /-- The word that was read last. -/
  latest : List Part
  /-- The here-documents announced on this line, the last one first. -/
  awaited : List Awaited
  /-- The here-documents that were read, by their numbers. -/
  documents : List (Nat × List Part)
  /-- The number of the next here-document. -/
  nextDocument : Nat

/-- A reader at the beginning of a text. -/
def Reader.start (text : List Char) (aliases : List (String × String)) (nextDocument : Nat) :
    Reader :=
  ⟨text, 1, aliases, [], none, [], [], [], nextDocument⟩

/-- Reading a part of a script. -/
abbrev Parse := StateT Reader (Except Fault)

/-- How far the commands of a substitution go. -/
inductive Extent where
  /-- Up to a closing parenthesis. -/
  | enclosed
  /-- Up to the end of the text, of which what they cannot go on with is left out. -/
  | whole
deriving DecidableEq, Repr

/-- Refuses the text. -/
def refuse {α : Type} (message : String) : Parse α := do
  throw ⟨(← get).line, message⟩

/-- Goes on behind some characters. -/
def continueAt (rest : List Char) : Parse Unit := modify fun r => { r with rest }

/-- Goes on behind some characters and a line end. -/
def continueOnNextLine (rest : List Char) : Parse Unit :=
  modify fun r => { r with rest, line := r.line + 1 }

/-! ## 2. Characters -/

/-- Whether a name may begin with the character. -/
def isNameStart (c : Char) : Bool := c.isAlpha || c = '_'

/-- Whether the character may stand in a name. -/
def isNameChar (c : Char) : Bool := c.isAlphanum || c = '_'

/-- Whether the text is a name. -/
def isName (s : String) : Bool :=
  match s.toList with
  | [] => false
  | c :: cs => isNameStart c && cs.all isNameChar

/-- Whether the character is a parameter by itself. -/
def isSpecialParameter (c : Char) : Bool :=
  c.isDigit || ['#', '?', '$', '!', '-', '*', '@'].contains c

/-- Whether the character ends a word outside quotes. -/
def endsWord (c : Char) : Bool :=
  [' ', '\t', '\n', ';', '&', '|', '<', '>', '(', ')'].contains c

/-- Where a part of a word stands. -/
inductive Mode where
  /-- Outside quotes. -/
  | word
  /-- Between double quotes. -/
  | double
  /-- In a substitution of a parameter. -/
  | brace
  /-- In a substitution of a parameter between double quotes. -/
  | braceInDouble
  /-- In a substitution of a parameter in a here-document. -/
  | braceInDocument
  /-- In an expression, with so many open parentheses. -/
  | arithmetic (depth : Nat)
  /-- In a here-document. -/
  | document
deriving DecidableEq, Repr

namespace Mode

/-- Whether what stands here is quoted. -/
def quotes : Mode → Bool
  | word | brace => false
  | _ => true

/-- Whether a backslash in quotes takes away the meaning of the character. -/
def protects (m : Mode) (c : Char) : Bool :=
  c = '\\' || c = '\x60' || c = '$' || (c = '"' && m ≠ document) ||
    (c = '\x7d' && (m = braceInDouble || m = braceInDocument))

/-- What is missing if the text ends here. -/
def missing? : Mode → Option String
  | word | document => none
  | double | braceInDouble => some "Syntax error: Unterminated quoted string"
  | brace | braceInDocument => some "Syntax error: Missing '\x7d'"
  | arithmetic _ => some "Syntax error: Missing '))'"

/-- Where the operand of a substitution stands. -/
def operand (m : Mode) (f : Form) : Mode :=
  match f, m with
  | .strip _ _, _ => brace
  | _, document | _, braceInDocument => braceInDocument
  | _, _ => if m.quotes then braceInDouble else brace

end Mode

/-! ## 3. Words -/

/-- What stands before the closing quote; the text goes on behind it. -/
def verbatim : (fuel : Nat) → List Part → Parse (List Part)
  | 0, done => pure done
  | fuel + 1, done => do
    match (← get).rest with
    | [] => refuse "Syntax error: Unterminated quoted string"
    | '\'' :: cs => continueAt cs; pure done
    | '\n' :: cs => continueOnNextLine cs; verbatim fuel (.char '\n' true :: done)
    | c :: cs => continueAt cs; verbatim fuel (.char c true :: done)

/-- The text between backquotes without the backslashes that protect characters in it, and what
follows it. -/
def tickText (quoted : Bool) : List Char → List Char → Option (List Char × List Char)
  | _, [] => none
  | done, '\x60' :: cs => some (done.reverse, cs)
  | done, '\\' :: c :: cs =>
    if c = '\\' ∨ c = '$' ∨ c = '\x60' ∨ (quoted = true ∧ c = '"') then
      tickText quoted (c :: done) cs
    else if c = '\n' then tickText quoted done cs
    else tickText quoted (c :: '\\' :: done) cs
  | done, c :: cs => tickText quoted (c :: done) cs

/-- Reads something from a text of its own, whose first line has the given number. -/
def within {α : Type} (text : List Char) (line : Nat) (p : Parse α) : Parse α := do
  let outer ← get
  set { outer with rest := text, line, ahead := none, awaited := [] }
  let a ← p
  modify fun r => { r with
    rest := outer.rest, line := outer.line, ahead := outer.ahead, awaited := outer.awaited }
  pure a

/-- The name of a parameter and what is done with it, from behind an opening brace up to the
operand or the closing brace; the number says how many characters that is.  A character that means
nothing there is passed over.  Behind a colon the closing brace is such a character. -/
def parameterHead (cs : List Char) : String × Form × Nat :=
  let form (name : List Char) : String × Form × Nat :=
    let n := name.length
    let rest := cs.drop n
    let (orEmpty, skipped, rest) :=
      match rest with
      | ':' :: more => (true, 1, more)
      | _ => (false, 0, rest)
    let (f, m) : Form × Nat :=
      match rest, orEmpty with
      | '\x7d' :: _, false => (.plain, 0)
      | '\x7d' :: _, true => (.plain, 1)
      | '-' :: _, _ => (.orElse orEmpty, 1)
      | '=' :: _, _ => (.orAssign orEmpty, 1)
      | '?' :: _, _ => (.orFail orEmpty, 1)
      | '+' :: _, _ => (.instead orEmpty, 1)
      | '%' :: '%' :: _, false => (.strip true true, 2)
      | '%' :: _, false => (.strip true false, 1)
      | '#' :: '#' :: _, false => (.strip false true, 2)
      | '#' :: _, false => (.strip false false, 1)
      | _ :: _, _ => (.bad, 1)
      | [], _ => (.bad, 0)
    (String.ofList name, f, n + skipped + m)
  let nameAt (cs : List Char) : List Char :=
    match cs with
    | c :: _ => if isNameStart c then cs.takeWhile isNameChar else cs.takeWhile Char.isDigit
    | [] => []
  match nameAt cs, cs with
  | name@(_ :: _), _ => form name
  | [], '#' :: rest =>
    match nameAt rest, rest with
    | name@(_ :: _), _ =>
      (String.ofList name, if rest[name.length]? = some '\x7d' then .length else .bad,
        name.length + 1)
    | [], c :: '\x7d' :: _ =>
      if c = '\x7d' then form ['#']
      else if isSpecialParameter c then (c.toString, .length, 2)
      else ("", .bad, 2)
    | _, _ => form ['#']
  | [], c :: _ =>
    if isSpecialParameter c then form [c] else ("", .bad, if c = '\x7d' then 0 else 1)
  | [], [] => ("", .bad, 0)

/-- Reads what follows a dollar sign; `commands` reads commands and `parts` the parts up to the end
of a mode. -/
def dollar (commands : Extent → Parse Script) (parts : Mode → Parse (List Part)) (mode : Mode) :
    Parse Part := do
  let quoted := mode.quotes
  match (← get).rest with
  | '(' :: '(' :: cs =>
    continueAt cs
    return .arithmetic (← parts (.arithmetic 0)) quoted
  | '(' :: cs =>
    continueAt cs
    return .command (← commands .enclosed) quoted
  | '\x7b' :: cs =>
    let (name, form, n) := parameterHead cs
    continueAt (cs.drop n)
    if form = .plain ∧ cs[n - 1]? = some '\x7d' then
      let _ ← parts (mode.operand form)
      return .parameter name form [] quoted
    else if form = .plain then
      continueAt (cs.drop (n + 1))
      return .parameter name form [] quoted
    else return .parameter name form (← parts (mode.operand form)) quoted
  | c :: cs =>
    if isNameStart c then
      let name := c :: cs.takeWhile isNameChar
      continueAt (cs.drop (name.length - 1))
      return .parameter (String.ofList name) .plain [] quoted
    else if isSpecialParameter c then
      continueAt cs
      return .parameter c.toString .plain [] quoted
    else return .char '$' quoted
  | [] => return .char '$' quoted

/-- Whether the parts are all parameters, each for itself, and nothing else. -/
def isAllParameters : List Part → Bool
  | [.parameter "@" .plain _ _] => true
  | _ => false

/-- Reads parts up to the end of a mode; `done` holds those read before, the last one first. -/
def partsFrom (commands : Extent → Parse Script) :
    (fuel : Nat) → Mode → List Part → Parse (List Part)
  | 0, _, done => pure done.reverse
  | fuel + 1, mode, done => do
    let keep (c : Char) (cs : List Char) : Parse (List Part) := do
      if c = '\n' then continueOnNextLine cs else continueAt cs
      partsFrom commands fuel mode (.char c mode.quotes :: done)
    match (← get).rest with
    | [] =>
      match mode.missing? with
      | some message => refuse message
      | none => pure done.reverse
    | '\\' :: '\n' :: cs =>
      continueOnNextLine cs
      partsFrom commands fuel mode done
    | '\\' :: c :: cs =>
      continueAt cs
      if mode.quotes ∧ ¬ mode.protects c then
        partsFrom commands fuel mode (.char c true :: .char '\\' true :: done)
      else partsFrom commands fuel mode (.char c true :: done)
    | '$' :: cs =>
      continueAt cs
      let part ← dollar commands (fun m => partsFrom commands fuel m []) mode
      partsFrom commands fuel mode (part :: done)
    | '\x60' :: cs =>
      match tickText (mode = .double) [] cs with
      | none =>
        modify fun r => { r with line := r.line + (cs.filter (· = '\n')).length }
        refuse "Syntax error: EOF in backquote substitution"
      | some (text, rest) =>
        let lines := cs.length - rest.length
        let ends := ((cs.take lines).filter (· = '\n')).length
        let body ← within text 1 (commands .whole)
        modify fun r => { r with rest, line := r.line + ends }
        partsFrom commands fuel mode (.command body mode.quotes :: done)
    | '"' :: cs =>
      match mode with
      | .double => continueAt cs; pure done.reverse
      | .document => keep '"' cs
      | .arithmetic _ => continueAt cs; partsFrom commands fuel mode done
      | _ =>
        continueAt cs
        let inner ← partsFrom commands fuel .double []
        let done := if isAllParameters inner then done else .mark :: done
        partsFrom commands fuel mode (inner.reverse ++ done)
    | '\'' :: cs =>
      if mode.quotes then keep '\'' cs
      else
        continueAt cs
        partsFrom commands fuel mode (← verbatim (cs.length + 1) (.mark :: done))
    | '\x7d' :: cs =>
      if mode = .brace ∨ mode = .braceInDouble ∨ mode = .braceInDocument then do
        continueAt cs
        pure done.reverse
      else keep '\x7d' cs
    | '(' :: cs =>
      match mode with
      | .arithmetic depth =>
        continueAt cs
        partsFrom commands fuel (.arithmetic (depth + 1)) (.char '(' true :: done)
      | .word => pure done.reverse
      | _ => keep '(' cs
    | ')' :: cs =>
      match mode with
      | .arithmetic (depth + 1) =>
        continueAt cs
        partsFrom commands fuel (.arithmetic depth) (.char ')' true :: done)
      | .arithmetic 0 =>
        match cs with
        | ')' :: rest => continueAt rest; pure done.reverse
        | _ => keep ')' cs
      | .word => pure done.reverse
      | _ => keep ')' cs
    | c :: cs => if mode = .word ∧ endsWord c then pure done.reverse else keep c cs

/-- Reads the parts up to the end of a mode. -/
def parts (commands : Extent → Parse Script) (mode : Mode) : Parse (List Part) := do
  partsFrom commands (2 * (← get).rest.length + 2) mode []

/-! ## 4. Here-documents -/

/-- The word behind the operator of a here-document, whether any of it is quoted, and what follows
it; none if a quote is not closed.  A dollar sign and a backquote mean nothing in it. -/
def delimiterFrom : (quote : Option Char) → (done : List Char) → (quoted : Bool) → List Char →
    Option (List Char × Bool × List Char)
  | none, done, quoted, [] => some (done.reverse, quoted, [])
  | some _, _, _, [] => none
  | some '\'', done, quoted, c :: cs =>
    if c = '\'' then delimiterFrom none done quoted cs
    else delimiterFrom (some '\'') (c :: done) quoted cs
  | quote, done, quoted, '\\' :: '\n' :: cs => delimiterFrom quote done quoted cs
  | some q, done, quoted, '\\' :: c :: cs =>
    let done := if Mode.double.protects c then done else '\\' :: done
    delimiterFrom (some q) (c :: done) quoted cs
  | none, done, _, '\\' :: c :: cs => delimiterFrom none (c :: done) true cs
  | some q, done, quoted, c :: cs =>
    if c = q then delimiterFrom none done quoted cs
    else delimiterFrom (some q) (c :: done) quoted cs
  | none, done, quoted, c :: cs =>
    if endsWord c then some (done.reverse, quoted, c :: cs)
    else if c = '\'' ∨ c = '"' then delimiterFrom (some c) done true cs
    else delimiterFrom none (c :: done) quoted cs

/-- The first line of a text, and what follows it. -/
def firstLine (cs : List Char) : List Char × List Char :=
  (cs.takeWhile (· ≠ '\n'), (cs.dropWhile (· ≠ '\n')).drop 1)

/-- Whether the line ends in a backslash that no other one protects. -/
def isContinued (line : List Char) : Bool := (line.reverse.takeWhile (· = '\\')).length % 2 = 1

/-- The lines of a here-document, the last one first, and what follows its last line. -/
def documentLines (a : Awaited) : (fuel : Nat) → (joined : Bool) → (done : List (List Char)) →
    List Char → List (List Char) × List Char
  | 0, _, done, cs => (done, cs)
  | _ + 1, _, done, [] => (done, [])
  | fuel + 1, joined, done, cs =>
    let cs := if a.stripTabs ∧ joined = false then cs.dropWhile (· = '\t') else cs
    let (line, rest) := firstLine cs
    let ended := line.length < cs.length
    let behind := cs.drop a.delimiter.length
    if joined = false ∧ a.delimiter.isPrefixOf cs ∧ behind.head?.all (· = '\n') then
      (done, behind.drop 1)
    else
      documentLines a fuel (a.verbatim = false && isContinued line)
        ((if ended then line ++ ['\n'] else line) :: done) rest

/-- Reads a here-document that begins here. -/
def readDocument (commands : Extent → Parse Script) (a : Awaited) : Parse Unit := do
  let cs := (← get).rest
  let (lines, rest) := documentLines a (cs.length + 1) false [] cs
  let text := lines.reverse.flatten
  let body ← if a.verbatim then pure (text.map fun c => Part.char c true)
    else within text (← get).line (parts commands .document)
  let used := cs.take (cs.length - rest.length)
  modify fun r => { r with
    rest
    line := r.line + (used.filter (· = '\n')).length
    documents := (a.number, body) :: r.documents }

/-- Reads the here-documents that were announced. -/
def readDocuments (commands : Extent → Parse Script) : Parse Unit := do
  let awaited := (← get).awaited.reverse
  modify fun r => { r with awaited := [] }
  awaited.forM (readDocument commands)

/-! ## 5. Tokens -/

/-- The operators, longer ones first. -/
def operators : List (List Char) :=
  [['&', '&'], ['|', '|'], [';', ';'], ['&'], ['|'], [';'], ['('], [')']]

/-- The operators of redirections, longer ones first. -/
def redirections : List (List Char) :=
  [['<', '<', '-'], ['<', '<'], ['>', '>'], ['<', '&'], ['>', '&'], ['>', '|'], ['<', '>'], ['<'],
    ['>']]

/-- The text without blanks, continued line ends and a comment at its beginning, and the number
of line ends left out. -/
def skipBlanks : List Char → Nat → List Char × Nat
  | '\\' :: '\n' :: cs, n => skipBlanks cs (n + 1)
  | c :: cs, n =>
    if c = ' ' ∨ c = '\t' then skipBlanks cs n
    else if c = '#' then ((c :: cs).dropWhile (· ≠ '\n'), n)
    else (c :: cs, n)
  | [], n => ([], n)

/-- Reads a redirection operator, if one comes next. -/
def redirectToken? (descriptor : Option Nat) (cs : List Char) : Option (Token × List Char) :=
  (redirections.find? fun op => op.isPrefixOf cs).map fun op =>
    (.redirect descriptor (String.ofList op), cs.drop op.length)

/-- The descriptor that a word before a redirection operator names. -/
def descriptor? : List Part → Option Nat
  | [.char c false] => if c.isDigit then some (c.toNat - 48) else none
  | _ => none

/-- Reads the next token. -/
def readToken (commands : Extent → Parse Script) : Parse Token := do
  let (cs, lines) := skipBlanks (← get).rest 0
  modify fun r => { r with rest := cs, line := r.line + lines }
  match cs with
  | [] => return .endOfText
  | '\n' :: rest => continueOnNextLine rest; return .newline
  | _ =>
    match redirectToken? none cs with
    | some (t, rest) => continueAt rest; return t
    | none =>
      match operators.find? fun op => op.isPrefixOf cs with
      | some op => continueAt (cs.drop op.length); return .operator (String.ofList op)
      | none =>
        let word ← parts commands .word
        let rest := (← get).rest
        match (descriptor? word).bind fun d => redirectToken? (some d) rest with
        | some (t, rest) => continueAt rest; return t
        | none => modify fun r => { r with latest := word }; return .word word

/-- The next token, which stays the next one. -/
def peek (commands : Extent → Parse Script) : Parse Token := do
  match (← get).ahead with
  | some t => return t
  | none =>
    let t ← readToken commands
    modify fun r => { r with ahead := some t }
    return t

/-- Goes on behind the token that was looked at. -/
def skip : Parse Unit := modify fun r => { r with ahead := none }

end TidyTree.Shell
