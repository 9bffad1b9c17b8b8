/-
TidyTree.Tool.Awk.Token — the words of programs.

Blanks and comments are passed over, ends of lines count.  Whether a
slash begins an expression between slashes depends on the word before
it.
-/
import TidyTree.Tool.Awk.Program
import TidyTree.Regex.Reader
import TidyTree.Shell.Format

namespace TidyTree.Tool.Awk

open Shell (Quantity)

/-! ## 1. Words and faults -/

/-- A word of a program. -/
inductive Token where
  | number (x : Quantity)
  | text (s : String)
  /-- A regular expression as it was written. -/
  | pattern (cs : List Char)
  /-- A name; `called` says that a parenthesis follows at once. -/
  | name (s : String) (called : Bool)
  | builtin (f : Builtin)
  | keyword (s : String)
  | sign (s : String)
  | lineEnd

/-- A fault of a program, with the line. -/
structure Fault where
  line : Nat
  text : String

/-- The words that have a meaning of their own. -/
def keywords : List String :=
  ["BEGIN", "END", "function", "if", "else", "while", "for", "do", "break", "continue", "next",
    "nextfile", "exit", "return", "delete", "in", "getline", "print", "printf"]

/-- The functions that every program has, by their names. -/
def builtins : List (String × Builtin) :=
  [("length", .length), ("substr", .substr), ("index", .index), ("split", .split), ("sub", .sub),
    ("gsub", .gsub), ("match", .matching), ("sprintf", .sprintf), ("sin", .sin), ("cos", .cos),
    ("atan2", .atan2), ("exp", .exp), ("log", .log), ("sqrt", .sqrt), ("int", .int),
    ("rand", .rand), ("srand", .srand), ("tolower", .lower), ("toupper", .upper),
    ("system", .system), ("close", .close), ("fflush", .flush), ("systime", .time)]

/-- The signs, longer ones before those that they begin with. -/
def signs : List String :=
  ["&&", "||", "==", "!=", "<=", ">=", ">>", "++", "--", "+=", "-=", "*=", "/=", "%=", "^=", "!~",
    "\x7b", "\x7d", "(", ")", "[", "]", ";", ",", "+", "-", "*", "/", "%", "^", "!", "<", ">", "|",
    "?", ":", "~", "$", "="]

/-- Whether a value has just ended, so that a slash divides it. -/
def Token.endsValue : Token → Bool
  | number _ | text _ | pattern _ | name _ _ | builtin _ => true
  | sign s => s = ")" || s = "]" || s = "++" || s = "--" || s = "$"
  | keyword _ | lineEnd => false

/-! ## 2. Escapes -/

/-- The characters that letters behind a backslash stand for. -/
def letterEscapes : List (Char × Char) :=
  [('n', '\n'), ('t', '\t'), ('r', '\r'), ('a', '\x07'), ('b', '\x08'), ('f', '\x0c'),
    ('v', '\x0b')]

/-- The character that stands behind a backslash as a letter or in digits, and what follows it. -/
def escapedAt? : List Char → Option (Char × List Char)
  | [] => none
  | c :: cs =>
    match letterEscapes.lookup c with
    | some d => some (d, cs)
    | none =>
      let digits := ((c :: cs).take 3).takeWhile fun d => '0' ≤ d && d ≤ '7'
      if digits.isEmpty then none
      else
        let n := digits.foldl (fun n d => n * 8 + (d.toNat - 48)) 0
        some (Char.ofNat (n % 256), (c :: cs).drop digits.length)

/-- A text with what stands behind backslashes put in its place; a backslash that has no meaning
stays. -/
def unescaped : (fuel : Nat) → List Char → List Char
  | 0, _ => []
  | _ + 1, [] => []
  | fuel + 1, '\\' :: cs =>
    match escapedAt? cs, cs with
    | some (c, rest), _ => c :: unescaped fuel rest
    | none, '"' :: rest => '"' :: unescaped fuel rest
    | none, '\\' :: rest => '\\' :: unescaped fuel rest
    | none, '\n' :: rest => unescaped fuel rest
    | none, c :: rest => '\\' :: c :: unescaped fuel rest
    | none, [] => ['\\']
  | fuel + 1, c :: cs => c :: unescaped fuel cs

/-! ## 3. Regular expressions -/

/-- The characters that have a meaning in regular expressions. -/
def regexSpecials : List Char := "^$.[]|()*+?\x7b\x7d\\".toList

/-- Where the members of a bracket end that was opened: those members, written so that what stood
behind backslashes stands for itself, and what follows them. -/
def bracketPart : (fuel : Nat) → (atStart : Bool) → List Char → List Char × List Char
  | 0, _, cs => ([], cs)
  | _ + 1, _, [] => ([], [])
  | fuel + 1, atStart, c :: cs =>
    let goOn (front : List Char) (rest : List Char) : List Char × List Char :=
      let (members, rest) := bracketPart fuel false rest
      (front ++ members, rest)
    if c = ']' ∧ ¬ atStart then ([']'], cs)
    else if c = '\\' then
      match escapedAt? cs, cs with
      | some (d, rest), _ => goOn ['[', '.', d, '.', ']'] rest
      | none, d :: rest => goOn ['[', '.', d, '.', ']'] rest
      | none, [] => (['\\'], [])
    else
      match c, cs with
      | '[', ':' :: more =>
        let name := more.takeWhile (· ≠ ':')
        match more.drop name.length with
        | ':' :: ']' :: rest => goOn ('[' :: ':' :: name ++ [':', ']']) rest
        | _ => goOn ['[', '.', '[', '.', ']'] cs
      | '[', _ => goOn ['[', '.', '[', '.', ']'] cs
      | _, _ => goOn [c] cs

/-- A regular expression in the common way of writing: what stands behind backslashes stands for
itself, and braces and parentheses that close nothing do, too. -/
def commonRegex : (fuel depth : Nat) → List Char → List Char
  | 0, _, _ => []
  | _ + 1, _, [] => []
  | fuel + 1, depth, '\\' :: cs =>
    let plain (c : Char) : List Char := if regexSpecials.contains c then ['\\', c] else [c]
    match escapedAt? cs, cs with
    | some (c, rest), _ => plain c ++ commonRegex fuel depth rest
    | none, c :: rest => plain c ++ commonRegex fuel depth rest
    | none, [] => ['\\', '\\']
  | fuel + 1, depth, '[' :: cs =>
    let (front, cs) := match cs with
      | '^' :: more => (['[', '^'], more)
      | _ => (['['], cs)
    let (members, rest) := bracketPart (cs.length + 1) true cs
    front ++ members ++ commonRegex fuel depth rest
  | fuel + 1, depth, c :: cs =>
    if c = '\x7b' ∨ c = '\x7d' ∨ (c = ')' ∧ depth = 0) then '\\' :: c :: commonRegex fuel depth cs
    else
      let depth := if c = '(' then depth + 1 else if c = ')' then depth - 1 else depth
      c :: commonRegex fuel depth cs

/-- Reads a regular expression. -/
def regexOf (cs : List Char) : Except RegexFault Regex :=
  (Regex.ofText ⟨true, true⟩ (commonRegex (cs.length + 1) 0 cs)).map (·.1)

/-- What is wrong with a regular expression, in words. -/
def regexComplaint (cs : List Char) (e : RegexFault) : String :=
  let reason := match e with
    | .openGroup => "missing ')'"
    | .openBracket | .emptyBracket => "bad class -- [], [^] or ["
    | _ => "missing operand"
  "regular expression compile failed (" ++ reason ++ ")\n" ++ String.ofList cs

/-! ## 4. Reading -/

/-- The characters up to one that is not behind a backslash, and what follows it. -/
def upToUnescaped (ending : Char) : List Char → Option (List Char × List Char)
  | [] => none
  | '\\' :: c :: cs => (upToUnescaped ending cs).map fun (front, rest) => ('\\' :: c :: front, rest)
  | c :: cs =>
    if c = ending then some ([], cs)
    else (upToUnescaped ending cs).map fun (front, rest) => (c :: front, rest)

/-- The characters of an expression up to the slash that ends it; a slash in a bracket does not. -/
def patternPart : (inBracket atStart : Bool) → List Char → Option (List Char × List Char)
  | _, _, [] => none
  | _, _, '\n' :: _ => none
  | inBracket, _, '\\' :: c :: cs =>
    (patternPart inBracket false cs).map fun (front, rest) =>
      (if c = '/' then ('/' :: front, rest) else ('\\' :: c :: front, rest))
  | true, atStart, c :: cs =>
    let stays := c ≠ ']' || atStart
    (patternPart stays (atStart && c = '^') cs).map fun (front, rest) => (c :: front, rest)
  | false, _, c :: cs =>
    if c = '/' then some ([], cs)
    else (patternPart (c = '[') (c = '[') cs).map fun (front, rest) => (c :: front, rest)

/-- Whether a name may begin with the character. -/
def isNameStart (c : Char) : Bool := c.isAlpha || c = '_'

/-- The word for a name. -/
def wordFor (name : String) (rest : List Char) : Token :=
  if keywords.contains name then .keyword name
  else
    match builtins.lookup name with
    | some f => .builtin f
    | none => .name name (rest.head? = some '(')

/-- The words of a text, each with its line. -/
def tokensFrom : (fuel : Nat) → (line : Nat) → (last : Option Token) → List Char →
    Except Fault (List (Token × Nat))
  | 0, _, _, _ => .ok []
  | _ + 1, _, _, [] => .ok []
  | fuel + 1, line, last, c :: cs => do
    let add (t : Token) (rest : List Char) : Except Fault (List (Token × Nat)) := do
      return (t, line) :: (← tokensFrom fuel line (some t) rest)
    if c = '\n' then
      return (.lineEnd, line) :: (← tokensFrom fuel (line + 1) (some .lineEnd) cs)
    else if CharClass.space.has c then tokensFrom fuel line last cs
    else if c = '#' then tokensFrom fuel line last (cs.dropWhile (· ≠ '\n'))
    else if c = '\\' then
      match cs with
      | '\n' :: rest => tokensFrom fuel (line + 1) last rest
      | '\r' :: '\n' :: rest => tokensFrom fuel (line + 1) last rest
      | _ => throw ⟨line, "unexpected character '\\'"⟩
    else if c = '"' then
      match upToUnescaped '"' cs with
      | some (front, rest) =>
        let s := String.ofList (unescaped (front.length + 1) front)
        let t : Token := .text s
        let passed := (front.filter (· = '\n')).length
        return (t, line) :: (← tokensFrom fuel (line + passed) (some t) rest)
      | none => throw ⟨line, "runaway string constant"⟩
    else if c = '/' ∧ ¬ (last.map Token.endsValue).getD false then
      match patternPart false false cs with
      | some (front, rest) => add (.pattern front) rest
      | none => throw ⟨line, "runaway regular expression /" ++ String.ofList (cs.take 10) ++ " ..."⟩
    else if isNameStart c then
      let name := String.ofList ((c :: cs).takeWhile fun d => isNameStart d || d.isDigit)
      let rest := (c :: cs).drop name.length
      add (wordFor name rest) rest
    else if c.isDigit ∨ (c = '.' ∧ (cs.head?.map Char.isDigit).getD false) then
      let isHex : Bool := c = '0' && (cs.head? = some 'x' || cs.head? = some 'X')
      match if isHex then some (.quotient false 0 1, cs) else Quantity.ofFront? (c :: cs) with
      | some (x, rest) => add (.number x) rest
      | none => throw ⟨line, "unexpected character '.'"⟩
    else
      match signs.find? fun s => s.toList.isPrefixOf (c :: cs) with
      | some s => add (.sign s) ((c :: cs).drop s.length)
      | none => throw ⟨line, "unexpected character '" ++ c.toString ++ "'"⟩

/-- The words of a program. -/
def tokens (text : String) : Except Fault (List (Token × Nat)) :=
  tokensFrom (text.length + 1) 1 none text.toList

end TidyTree.Tool.Awk
