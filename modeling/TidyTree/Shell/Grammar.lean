/-
TidyTree.Shell.Grammar — from tokens to commands.

A list of commands holds pipelines joined by conditions, a pipeline
holds commands, and a compound command holds lists again.  The lists
inside are read by a parameter `inner`, so that each function here reads
one level; `read` puts the levels together, and its fuel bounds how deep
they nest.  A script is read one complete command after the other,
because what comes first is carried out before the rest is looked at.
-/
import TidyTree.Shell.Reader

namespace TidyTree.Shell

/-! ## 1. Levels -/

/-- What is to be read. -/
inductive Goal where
  /-- A list of commands; `mayBeEmpty` allows it to end where it begins. -/
  | list (mayBeEmpty : Bool)
  /-- One command. -/
  | command
  /-- The commands of a substitution. -/
  | substitution (e : Extent)
deriving DecidableEq, Repr

/-- What reads the level below. -/
abbrev Inner := Goal → Parse Script

/-- The words that are part of the grammar. -/
def keywords : List String :=
  ["!", "case", "do", "done", "elif", "else", "esac", "fi", "for", "if", "in", "then", "until",
    "while", "\x7b", "\x7d"]

/-- The words that end a list of commands. -/
def closers : List String := ["do", "done", "elif", "else", "esac", "fi", "then", "\x7d"]

/-- How a complaint names a token; words of the grammar count only where they can stand. -/
def Token.shown (asKeyword : Bool) : Token → String
  | .word parts =>
    match literal? parts with
    | some w => if asKeyword ∧ keywords.contains w then "\"" ++ w ++ "\"" else "word"
    | none => "word"
  | .redirect _ _ => "redirection"
  | .operator s => "\"" ++ s ++ "\""
  | .newline => "newline"
  | .endOfText => "end of file"

/-- The keyword that the token is, if it is one. -/
def Token.keyword? : Token → Option String
  | .word parts => (literal? parts).filter keywords.contains
  | _ => none

section

variable (inner : Inner)

/-- The next token. -/
def next? : Parse Token := peek fun e => inner (.substitution e)

/-- Refuses the next token. -/
def unexpected {α : Type} (expected : Option String) (asKeyword : Bool) : Parse α := do
  let t ← next? inner
  refuse ("Syntax error: " ++ t.shown asKeyword ++ " unexpected" ++
    match expected with
    | some e => " (expecting " ++ e ++ ")"
    | none => "")

/-- Whether the next token is the operator; if so, goes on behind it. -/
def eatOperator (s : String) : Parse Bool := do
  match ← next? inner with
  | .operator t => if s = t then do skip; return true else return false
  | _ => return false

/-- Whether the next token is the keyword; if so, goes on behind it. -/
def eatKeyword (w : String) : Parse Bool := do
  if (← next? inner).keyword? = some w then do skip; return true else return false

/-- Goes on behind a keyword that has to come next. -/
def expectKeyword (w : String) : Parse Unit := do
  unless ← eatKeyword inner w do unexpected inner (some ("\"" ++ w ++ "\"")) true

/-- Goes on behind an operator that has to come next. -/
def expectOperator (s : String) : Parse Unit := do
  unless ← eatOperator inner s do unexpected inner (some ("\"" ++ s ++ "\"")) true

/-- Goes on behind a line end and the here-documents that were announced on the line. -/
def skipNewline : Parse Unit := do
  skip
  readDocuments fun e => inner (.substitution e)

/-- Goes on behind any line ends. -/
def skipNewlines : (fuel : Nat) → Parse Unit
  | 0 => pure ()
  | fuel + 1 => do
    match ← next? inner with
    | .newline => skipNewline inner; skipNewlines fuel
    | _ => pure ()

/-- A number that no loop over what is left exceeds. -/
def size : Parse Nat := return (← get).rest.length + 2

/-- Puts the text of an alias in the place of the next word, if that is one. -/
def expandAlias : (fuel : Nat) → Parse Unit
  | 0 => pure ()
  | fuel + 1 => do
    if (← get).aliases.isEmpty then return
    match ← next? inner with
    | .word parts =>
      let r ← get
      let left := r.rest.length
      let active := r.active.filter fun a => a.2 < left ∨ (a.2 = left ∧ left ≠ 0)
      match literal? parts with
      | none => pure ()
      | some w =>
        match r.aliases.lookup w, active.lookup w with
        | some text, none =>
          set { r with rest := text.toList ++ r.rest, ahead := none, active := (w, left) :: active }
          expandAlias fuel
        | _, _ => pure ()
    | _ => pure ()

/-! ## 2. Simple commands -/

/-- The name and the word of an assignment. -/
def assignment? (parts : List Part) : Option (String × List Part) :=
  let name := (parts.takeWhile fun p => (p.bare?.map isNameChar).getD false).filterMap Part.bare?
  match parts.drop name.length with
  | .char '=' false :: word =>
    if isName (String.ofList name) then some (String.ofList name, word) else none
  | _ => none

/-- Reads a redirection behind its operator. -/
def redirect (descriptor : Option Nat) (operator : String) : Parse Redirect := do
  if operator = "<<" ∨ operator = "<<-" then
    let (cs, lines) := skipBlanks (← get).rest 0
    modify fun r => { r with rest := cs, line := r.line + lines }
    let isWord : Bool := match cs with
      | [] => false
      | c :: '<' :: _ | c :: '>' :: _ => !(endsWord c || c.isDigit)
      | c :: _ => !endsWord c
    if ¬ isWord then unexpected inner none false
    let lineEnds (some : List Char) : Nat := (some.filter (· = '\n')).length
    match delimiterFrom none [] false cs with
    | none =>
      modify fun r => { r with line := r.line + lineEnds cs }
      refuse "Syntax error: Unterminated quoted string"
    | some (delimiter, verbatim, rest) =>
      modify fun r => { r with
        rest
        line := r.line + lineEnds (cs.take (cs.length - rest.length))
        awaited := ⟨r.nextDocument, delimiter, verbatim, operator = "<<-"⟩ :: r.awaited
        nextDocument := r.nextDocument + 1 }
      return .make (descriptor.getD 0) (.document ((← get).nextDocument - 1)) []
  else
    let (default, action) : Nat × Redirection :=
      match operator with
      | "<" => (0, .read)
      | "<>" => (0, .readWrite)
      | "<&" => (0, .copyInput)
      | ">" => (1, .write)
      | ">|" => (1, .overwrite)
      | ">>" => (1, .append)
      | _ => (1, .copyOutput)
    match ← next? inner with
    | .word parts => skip; return .make (descriptor.getD default) action parts
    | _ => unexpected inner none false

/-- Reads the redirections that come next, behind those of `done`, the last one first. -/
def redirects : (fuel : Nat) → List Redirect → Parse (List Redirect)
  | 0, done => pure done.reverse
  | fuel + 1, done => do
    match ← next? inner with
    | .redirect d op => skip; redirects fuel ((← redirect inner d op) :: done)
    | _ => pure done.reverse

/-- Whether a name cannot be given to a function. -/
def isReserved (name : String) : Bool :=
  [".", ":", "break", "continue", "eval", "exec", "exit", "export", "readonly", "return", "set",
    "shift", "times", "trap", "unset"].contains name

/-- What was read of a simple command, the last part first. -/
structure Begun where
  assigns : List Assign
  words : List Word
  redirects : List Redirect

/-- Reads the rest of a simple command or of the definition of a function. -/
def simpleFrom (line : Nat) : (fuel : Nat) → Begun → Parse Script
  | 0, b => return .simple line b.assigns.reverse b.words.reverse b.redirects.reverse
  | fuel + 1, b => do
    let finished : Script := .simple line b.assigns.reverse b.words.reverse b.redirects.reverse
    if b.words.isEmpty then expandAlias inner (← size)
    match ← next? inner with
    | .word parts =>
      skip
      match (if b.words.isEmpty then assignment? parts else none) with
      | some (name, word) => simpleFrom line fuel { b with assigns := .make name word :: b.assigns }
      | none => simpleFrom line fuel { b with words := .make parts :: b.words }
    | .redirect d op =>
      skip
      let r ← redirect inner d op
      simpleFrom line fuel { b with redirects := r :: b.redirects }
    | .operator "(" =>
      match b with
      | ⟨[], [.make parts], []⟩ =>
        skip
        unless ← eatOperator inner ")" do unexpected inner (some "\")\"") false
        let name := (literal? parts).getD ""
        if isName name = false ∨ isReserved name then refuse "Syntax error: Bad function name"
        else
          skipNewlines inner (← size)
          let line := (← get).line
          return .define line name (← inner .command)
      | _ => return finished
    | _ => return finished

/-! ## 3. Compound commands -/

/-- Reads the end of a conditional behind a branch. -/
def otherwise : (fuel : Nat) → Parse Script
  | 0 => return .nothing
  | fuel + 1 => do
    if ← eatKeyword inner "elif" then
      let condition ← inner (.list false)
      expectKeyword inner "then"
      let body ← inner (.list false)
      return .choose condition body (← otherwise fuel)
    else if ← eatKeyword inner "else" then
      let body ← inner (.list false)
      expectKeyword inner "fi"
      return body
    else
      expectKeyword inner "fi"
      return .nothing

/-- Reads the words of a loop up to the end of the line. -/
def loopWords : (fuel : Nat) → List Word → Parse (List Word)
  | 0, done => pure done.reverse
  | fuel + 1, done => do
    match ← next? inner with
    | .word parts => skip; loopWords fuel (.make parts :: done)
    | .newline => skip; pure done.reverse
    | .operator ";" => skip; pure done.reverse
    | _ => unexpected inner none false

/-- Reads a loop over words behind its first word. -/
def forLoop (line : Nat) : Parse Script := do
  match ← next? inner with
  | .word parts =>
    let name := (literal? parts).getD ""
    if ¬ isName name then refuse "Syntax error: Bad for loop variable"
    skip
    skipNewlines inner (← size)
    let words ← if ← eatKeyword inner "in" then some <$> loopWords inner (← size) []
      else do
        let _ ← eatOperator inner ";"
        pure none
    skipNewlines inner (← size)
    expectKeyword inner "do"
    let body ← inner (.list false)
    expectKeyword inner "done"
    return .forEach line name words body
  | _ => refuse "Syntax error: Bad for loop variable"

/-- Reads the patterns of a clause and the parenthesis behind them.  What is no word stands for the
word that was read last. -/
def patterns : (fuel : Nat) → List Word → Parse (List Word)
  | 0, done => pure done.reverse
  | fuel + 1, done => do
    let _ ← next? inner
    let done := Word.make (← get).latest :: done
    skip
    if ← eatOperator inner "|" then patterns fuel done
    else if ← eatOperator inner ")" then pure done.reverse
    else unexpected inner (some "\")\"") false

/-- Reads the clauses of a selection and the word that ends it. -/
def clauses : (fuel : Nat) → List Clause → Parse (List Clause)
  | 0, done => pure done.reverse
  | fuel + 1, done => do
    skipNewlines inner (← size)
    if ← eatKeyword inner "esac" then return done.reverse
    let _ ← eatOperator inner "("
    let ps ← patterns inner (← size) []
    let body ← inner (.list true)
    let done := Clause.make ps body :: done
    if ← eatKeyword inner "esac" then return done.reverse
    unless ← eatOperator inner ";;" do unexpected inner (some "\";;\"") true
    clauses fuel done

/-- Reads a loop with a condition behind its first word. -/
def conditionLoop (untilTrue : Bool) : Parse Script := do
  let condition ← inner (.list false)
  expectKeyword inner "do"
  let body ← inner (.list false)
  expectKeyword inner "done"
  return .repeated untilTrue condition body

/-- Adds the redirections that follow a compound command. -/
def withRedirects (line : Nat) (body : Script) : Parse Script := do
  match ← redirects inner (← size) [] with
  | [] => return body
  | rs =>
    match body with
    | .subshell line body [] => return .subshell line body rs
    | _ => return .redirected line body rs

/-- Reads one command. -/
def command : Parse Script := do
  expandAlias inner (← size)
  let first ← next? inner
  let line := (← get).line
  match first with
  | .operator "(" =>
    skip
    let body ← inner (.list false)
    expectOperator inner ")"
    withRedirects inner line (.subshell line body [])
  | .word _ =>
    match first.keyword? with
    | none => simpleFrom inner line (← size) ⟨[], [], []⟩
    | some "\x7b" =>
      skip
      let body ← inner (.list false)
      expectKeyword inner "\x7d"
      withRedirects inner line body
    | some "if" =>
      skip
      let condition ← inner (.list false)
      expectKeyword inner "then"
      let body ← inner (.list false)
      withRedirects inner line (.choose condition body (← otherwise inner (← size)))
    | some "while" => skip; withRedirects inner line (← conditionLoop inner false)
    | some "until" => skip; withRedirects inner line (← conditionLoop inner true)
    | some "for" => skip; withRedirects inner line (← forLoop inner line)
    | some "case" =>
      skip
      match ← next? inner with
      | .word parts =>
        skip
        skipNewlines inner (← size)
        expectKeyword inner "in"
        let cs ← clauses inner (← size) []
        withRedirects inner line (.select line (.make parts) cs)
      | _ => unexpected inner (some "word") false
    | some _ => unexpected inner none true
  | .redirect _ _ => simpleFrom inner line (← size) ⟨[], [], []⟩
  | _ => unexpected inner none true

/-! ## 4. Pipelines and lists -/

/-- Reads the commands behind a bar. -/
def pipes : (fuel : Nat) → List Script → Parse (List Script)
  | 0, done => pure done.reverse
  | fuel + 1, done => do
    if ← eatOperator inner "|" then
      skipNewlines inner (← size)
      pipes fuel ((← command inner) :: done)
    else pure done.reverse

/-- Reads a pipeline. -/
def pipeline : Parse Script := do
  expandAlias inner (← size)
  let negated ← eatKeyword inner "!"
  let first ← command inner
  let rest ← pipes inner (← size) []
  let body := if rest.isEmpty then first else .pipeline (first :: rest)
  return if negated then .negated body else body

/-- Goes on behind a pipeline with the conditions that follow it. -/
def conditions : (fuel : Nat) → Script → Parse Script
  | 0, first => pure first
  | fuel + 1, first => do
    if ← eatOperator inner "&&" then
      skipNewlines inner (← size)
      conditions fuel (.both first (← pipeline inner))
    else if ← eatOperator inner "||" then
      skipNewlines inner (← size)
      conditions fuel (.either first (← pipeline inner))
    else pure first

/-- Reads pipelines joined by conditions. -/
def andOr : Parse Script := do conditions inner (← size) (← pipeline inner)

/-- Whether a token ends a list of commands. -/
def endsList (t : Token) : Bool :=
  match t with
  | .endOfText => true
  | .operator s => s = ")" || s = ";;"
  | _ => (t.keyword?.map closers.contains).getD false

/-- One command or several. -/
def sequenceOf : List Script → Script
  | [s] => s
  | ss => .sequence ss

/-- Reads the commands of a list; `mayEnd` says that it may end here. -/
def listFrom : (fuel : Nat) → (mayEnd : Bool) → List Script → Parse Script
  | 0, _, done => return sequenceOf done.reverse
  | fuel + 1, mayEnd, done => do
    skipNewlines inner (← size)
    let t ← next? inner
    let atEnd := match t with
      | .endOfText => true
      | _ => mayEnd && endsList t
    if atEnd then return sequenceOf done.reverse
    else
      let line := (← get).line
      let s ← andOr inner
      match ← next? inner with
      | .operator "&" => skip; listFrom fuel true (.background line s :: done)
      | .operator ";" => skip; listFrom fuel true (s :: done)
      | .newline => skipNewline inner; listFrom fuel true (s :: done)
      | _ => return sequenceOf (s :: done).reverse

/-- Reads one complete command, up to the end of its line. -/
def lineFrom : (fuel : Nat) → List Script → Parse Script
  | 0, done => return sequenceOf done.reverse
  | fuel + 1, done => do
    match ← next? inner with
    | .newline => skipNewline inner; return sequenceOf done.reverse
    | .endOfText => readDocuments fun e => inner (.substitution e); return sequenceOf done.reverse
    | _ =>
      let line := (← get).line
      let s ← andOr inner
      match ← next? inner with
      | .operator "&" => skip; lineFrom fuel (.background line s :: done)
      | .operator ";" => skip; lineFrom fuel (s :: done)
      | .newline => skipNewline inner; return sequenceOf (s :: done).reverse
      | .endOfText =>
        readDocuments fun e => inner (.substitution e)
        return sequenceOf (s :: done).reverse
      | _ => unexpected inner none true

end

/-! ## 5. Scripts -/

/-- Reads one level, the levels below with less fuel. -/
def read : (fuel : Nat) → Goal → Parse Script
  | 0, _ => refuse "Syntax error: nested too deeply"
  | fuel + 1, goal =>
    match goal with
    | .list mayBeEmpty => do listFrom (read fuel) (← size) mayBeEmpty []
    | .command => command (read fuel)
    | .substitution extent => do
      let outer ← get
      set { outer with ahead := none, awaited := [] }
      let body ← listFrom (read fuel) (← size) true []
      match extent with
      | .enclosed => expectOperator (read fuel) ")"
      | .whole => readDocuments fun e => read fuel (.substitution e)
      modify fun r => { r with awaited := outer.awaited }
      return body

/-- How deep the commands of a script may nest. -/
def nestingLimit : Nat := 1000

/-- Reads the next complete command of a script, if there is one. -/
def readLine? : Parse (Option Script) := do
  match ← next? (read nestingLimit) with
  | .endOfText => return none
  | .newline => skip; return some .nothing
  | _ => some <$> lineFrom (read nestingLimit) (← size) []

end TidyTree.Shell
