/-
TidyTree.Shell.Builtin.Printing — the commands of the shell that print
their arguments.

`echo` always gives backslashes their meaning.  `printf` reads its
format again as long as there are arguments; what is wrong with a number
is said at once, while the text is printed at the end.
-/
import TidyTree.Shell.Arithmetic
import TidyTree.Shell.Format

namespace TidyTree.Shell

/-! ## 1. Backslashes -/

/-- The number that up to `count` octal digits write, and what follows them. -/
def octal : (count : Nat) → (value : Nat) → List Char → Nat × List Char
  | count + 1, value, c :: cs =>
    if '0' ≤ c ∧ c ≤ '7' then octal count (value * 8 + (c.toNat - 48)) cs else (value, c :: cs)
  | _, value, cs => (value, cs)

/-- The characters that a letter behind a backslash stands for. -/
def escapes : List (Char × Char) :=
  [('a', '\x07'), ('b', '\x08'), ('e', '\x1b'), ('f', '\x0c'), ('n', '\n'), ('r', '\r'),
    ('t', '\t'), ('v', '\x0b'), ('\\', '\\')]

/-- What follows a backslash: the characters it stands for, and what follows them. -/
def escaped (cs : List Char) : List Char × List Char :=
  match cs with
  | [] => (['\\'], [])
  | c :: rest =>
    if '0' ≤ c ∧ c ≤ '7' then
      let (n, rest) := octal 3 0 cs
      ([Char.ofNat (n % 256)], rest)
    else
      match escapes.lookup c with
      | some d => ([d], rest)
      | none => (['\\', c], rest)

/-- A text with the meaning of its backslashes; the answer says whether the end of all output was
asked for. -/
def unescapeFrom : (fuel : Nat) → List Char → List Char × Bool
  | 0, cs => (cs, false)
  | _ + 1, [] => ([], false)
  | fuel + 1, '\\' :: cs =>
    if cs.head? = some 'c' then ([], true)
    else
      let digits := match cs with
        | '0' :: d :: more => if '0' ≤ d ∧ d ≤ '7' then d :: more else cs
        | _ => cs
      let (front, rest) := escaped digits
      let (back, ended) := unescapeFrom fuel rest
      (front ++ back, ended)
  | fuel + 1, c :: cs =>
    let (back, ended) := unescapeFrom fuel cs
    (c :: back, ended)

/-- A text with the meaning of its backslashes. -/
def unescape (s : String) : String × Bool :=
  let (cs, ended) := unescapeFrom (s.length + 1) s.toList
  (String.ofList cs, ended)

/-! ## 2. Printing words -/

/-- Prints the words with a blank between every two of them. -/
def echoText : List String → String × Bool
  | [] => ("", false)
  | [w] => unescape w
  | w :: ws =>
    let (front, ended) := unescape w
    if ended then (front, true)
    else
      let (back, ended) := echoText ws
      (front ++ " " ++ back, ended)

/-- Prints its arguments as a line. -/
def echo (args : List String) : Act Nat := do
  let (newline, words) :=
    match args with
    | "-n" :: rest => (false, rest)
    | _ => (true, args)
  let (text, ended) := echoText words
  print (if newline ∧ ended = false then text ++ "\n" else text)
  return 0

/-! ## 3. Printing by a format -/

/-- What a format is working on. -/
structure Printing where
  args : List String
  printed : List String
  failed : Bool
  /-- Whether the end of all output was asked for. -/
  ended : Bool

/-- Takes the next argument, if there is one. -/
def Printing.next (p : Printing) : Option String × Printing :=
  (p.args.head?, { p with args := p.args.tail })

/-- Says what is wrong with a number. -/
def numberComplaint (s what : String) (p : Printing) : Act Printing := do
  warn (s ++ ": " ++ what)
  return { p with failed := true }

/-- The number that an argument writes: a quote stands before a character whose number it is. -/
def integerArgument (p : Printing) : Act (Int × Printing) := do
  match p.next with
  | (none, p) => return (0, p)
  | (some s, p) =>
    match s.toList with
    | c :: rest =>
      if c = '"' ∨ c = '\'' then return (((rest.head?.map Char.toNat).getD 0 : Nat), p)
      else
        let cs := s.toList.dropWhile CharClass.space.has
        let (negative, ds) :=
          match cs with
          | '-' :: ds => (true, ds)
          | '+' :: ds => (false, ds)
          | _ => (false, cs)
        match natural? ds with
        | none => return (0, ← numberComplaint s "expected numeric value" p)
        | some (n, rest) =>
          let tooLarge := largest + (if negative then 1 else 0) < n
          let value : Int :=
            if negative then -(min n (largest + 1) : Nat) else (min n largest : Nat)
          if ¬ rest.isEmpty then return (value, ← numberComplaint s "not completely converted" p)
          else if tooLarge then
            return (value, ← numberComplaint s "Numerical result out of range" p)
          else return (value, p)
    | [] => return (0, p)

/-- The number with a fraction that an argument writes. -/
def realArgument (p : Printing) : Act (Quantity × Printing) := do
  match p.next with
  | (none, p) => return (.quotient false 0 1, p)
  | (some s, p) =>
    match s.toList with
    | c :: rest =>
      if c = '"' ∨ c = '\'' then
        return (.quotient false ((rest.head?.map Char.toNat).getD 0) 1, p)
      else
        match Quantity.ofFront? s.toList with
        | none => return (.quotient false 0 1, ← numberComplaint s "expected numeric value" p)
        | some (x, rest) =>
          if rest.isEmpty then return (x.toDouble, p)
          else return (x.toDouble, ← numberComplaint s "not completely converted" p)
    | [] => return (.quotient false 0 1, p)

/-- Adds a text to what is printed. -/
def Printing.add (p : Printing) (t : String) : Printing := { p with printed := t :: p.printed }

/-- Prints what there is, then complains. -/
def formatFault {α : Type} (p : Printing) (what : String) : Act α := do
  warn what
  print (String.join p.printed.reverse)
  failWith 2

/-- Lays out the next argument by the letter of a directive; `directive` is the directive as it is
written. -/
def conversion (spec : Spec) (letter : Char) (directive : String) (p : Printing) :
    Act Printing := do
  match letter with
  | 'b' =>
    let (s, p) := p.next
    let (text, ended) := unescape (s.getD "")
    return { p.add (spec.text text) with ended }
  | 'c' =>
    let (s, p) := p.next
    let c := ((s.getD "").toList.head?).getD '\x00'
    return p.add ({ spec with precision := none }.text c.toString)
  | 's' =>
    let (s, p) := p.next
    return p.add (spec.text (s.getD ""))
  | 'd' | 'i' =>
    let (n, p) ← integerArgument p
    return p.add (spec.integer n)
  | 'o' | 'u' | 'x' | 'X' =>
    let (n, p) ← integerArgument p
    let bits := Operation.bits n
    let base := if letter = 'o' then 8 else if letter = 'u' then 10 else 16
    return p.add (spec.natural base (letter = 'X') bits)
  | 'e' | 'E' | 'f' | 'F' | 'g' | 'G' =>
    let (x, p) ← realArgument p
    return p.add (spec.real letter x)
  | _ => formatFault p (directive ++ ": invalid directive")

/-- Goes through a format once. -/
def formatOnce : (fuel : Nat) → List Char → Printing → Act Printing
  | 0, _, p => return p
  | _ + 1, [], p => return p
  | fuel + 1, '\\' :: cs, p => do
    let (front, rest) := escaped cs
    formatOnce fuel rest (p.add (String.ofList front))
  | fuel + 1, '%' :: '%' :: cs, p => formatOnce fuel cs (p.add "%")
  | fuel + 1, '%' :: cs, p => do
    let (written, rest) := writtenSpec cs
    let (width, p) ← if written.widthGiven then integerArgument p else pure (0, p)
    let (precision, p) ← if written.precisionGiven then integerArgument p else pure (0, p)
    match rest with
    | [] => formatFault p "missing format character"
    | letter :: rest =>
      let directive := String.ofList ('%' :: cs.take (cs.length - rest.length))
      let p ← conversion (written.toSpec width precision) letter directive p
      if p.ended then return p else formatOnce fuel rest p
  | fuel + 1, c :: cs, p => formatOnce fuel cs (p.add c.toString)

/-- Goes through a format as long as it uses up arguments. -/
def formatAll (format : List Char) : (rounds : Nat) → Printing → Act Printing
  | 0, p => return p
  | rounds + 1, p => do
    let q ← formatOnce (format.length + 1) format p
    if q.ended ∨ q.args.isEmpty ∨ q.args.length = p.args.length then return q
    else formatAll format rounds q

/-- Prints its arguments by a format. -/
def printf (args : List String) : Act Nat := do
  let isMarked := args.head? = some "--"
  match (if isMarked then args.tail else args) with
  | [] => fail "usage: printf format [arg ...]"
  | format :: rest =>
    if ¬ isMarked ∧ format.length > 1 ∧ format.toList.head? = some '-' then
      fail ("Illegal option -" ++ String.ofList ((format.toList.drop 1).take 1))
    else
      let p ← formatAll format.toList (rest.length + 1) ⟨rest, [], false, false⟩
      print (String.join p.printed.reverse)
      return if p.failed then 1 else 0

end TidyTree.Shell
