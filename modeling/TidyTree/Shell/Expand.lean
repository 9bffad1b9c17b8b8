/-
TidyTree.Shell.Expand — what words stand for.

A word is turned into atoms part by part: parameters, commands and
expressions are replaced by what they give, and quotes leave only their
marks.  The atoms are put together to fields where several words may
come of one, and to one text where only one can.
-/
import TidyTree.Shell.Arithmetic
import TidyTree.Shell.Field

namespace TidyTree.Shell

/-! ## 1. Parameters -/

/-- The characters that may end a field. -/
def Machine.separators (m : Machine) : List Char := ((m.value? "IFS").getD " \t\n").toList

/-- The letters of the options in the order in which they are shown. -/
def optionOrder : List Char :=
  ['u', 'b', 'a', 'C', 'E', 'V', 'v', 'x', 's', 'n', 'm', 'i', 'I', 'f', 'e']

/-- The value of a parameter, if it is set; not for all parameters together. -/
def Machine.parameter? (m : Machine) (name : String) : Option String :=
  match name with
  | "#" => some (toString m.parameters.length)
  | "?" => some (toString m.status)
  | "$" => some (toString m.number)
  | "!" => m.lastBackground.map toString
  | "-" => some (String.ofList (optionOrder.filter m.has))
  | "0" => some m.name
  | "LINENO" =>
    some (toString (if m.functionLine = 0 then m.line else m.line - (m.functionLine - 1)))
  | _ =>
    match name.toList with
    | c :: cs =>
      if c.isDigit then m.parameters[(digits 10 (c :: cs)).1 - 1]? else m.value? name
    | [] => none

/-- The value without a beginning or an end that fits the pattern. -/
def strip (atEnd longest : Bool) (gs : List Glob) (s : List Char) : List Char :=
  let cuts := List.range (s.length + 1)
  let part (n : Nat) : List Char := if atEnd then s.drop (s.length - n) else s.take n
  match (if longest then cuts.reverse else cuts).find? fun n => fits gs (part n) with
  | some n => if atEnd then s.take (s.length - n) else s.drop n
  | none => s

/-- The atoms of all parameters. -/
def allParameters (m : Machine) (name : String) (quoted : Bool) : List Atom :=
  if name = "*" ∧ quoted then
    let separator : String :=
      match m.value? "IFS" with
      | none => " "
      | some ifs => String.ofList (ifs.toList.take 1)
    Atom.ofText true (separator.intercalate m.parameters)
  else
    let each (s : String) : List Atom := (if quoted then [.mark] else []) ++ Atom.ofText quoted s
    ((m.parameters.map each).intersperse [.cut]).flatten

/-- The separator of parameters where only one text can come of a word. -/
def Machine.joint (m : Machine) : List Char :=
  match m.value? "IFS" with
  | none => [' ']
  | some ifs => ifs.toList.take 1

/-- Complains that a parameter is not set. -/
def notSet {α : Type} (name message : String) : Act α := fail (name ++ ": " ++ message)

/-! ## 2. Directories of users -/

/-- The part of a word before the first slash, or colon if `stops` has one, if it is a tilde with a
name and nothing in it is quoted; and what follows it. -/
def tilde? (stops : List Char) (ps : List Part) : Option (String × List Part) :=
  match ps with
  | .char '~' false :: rest =>
    let isIn (p : Part) : Bool := (p.bare?.map fun c => !stops.contains c).getD false
    let name := rest.takeWhile isIn
    let behind := rest.drop name.length
    let ends := match behind with
      | [] => true
      | p :: _ => p.bare?.isSome
    if ends then some (String.ofList (name.filterMap Part.bare?), behind) else none
  | _ => none

/-- The directory of the user that a tilde with a name stands for. -/
def homeOf? (m : Machine) (user : String) : Option String :=
  if user = "" then m.value? "HOME"
  else if user = "root" then some "/root"
  else none

/-- Replaces a tilde at the beginning. -/
def expandTilde (stops : List Char) (ps : List Part) : Act (List Part) := do
  match tilde? stops ps with
  | none => return ps
  | some (user, behind) =>
    match homeOf? (← get) user with
    | some home => return home.toList.map (fun c => Part.char c true) ++ behind
    | none => return ps

/-- Replaces the tildes at the beginning and behind colons. -/
def expandTildes : (fuel : Nat) → List Part → Act (List Part)
  | 0, ps => return ps
  | fuel + 1, ps => do
    let ps ← expandTilde ['/', ':'] ps
    let isColon (p : Part) : Bool := p.bare? = some ':'
    let front := ps.takeWhile fun p => ¬ isColon p
    match ps.drop front.length with
    | [] => return ps
    | colon :: rest => return front ++ colon :: (← expandTildes fuel rest)

/-! ## 3. Parts -/

/-- A text without the line ends at its end and without zero bytes. -/
def withoutLineEnds (s : String) : String :=
  String.ofList ((s.toList.filter (· ≠ '\x00')).reverse.dropWhile (· = '\n')).reverse

/-- A process that is a part of this script; what was set for signals is not carried over unless it
ignores them. -/
def Machine.subshell (m : Machine) : Machine :=
  { m with traps := m.traps.filter fun t => t.2 = "", jobs := [], loopDepth := 0, settled := none }

/-- What a command prints. -/
def substitute (perform : Performer) (body : Script) : Act String := do
  let n ← addOpening ⟨.pipe .empty, 0, true, true, false⟩
  let ended ← inProcess (fun m => { m.subshell with
    descriptors := (1, n) :: m.descriptors.filter fun d => d.1 ≠ 1 }) (perform (.part body false))
  let status := match ended with
    | .exited s => s
    | .killed s => 128 + s.number
  modify fun m => { m with substituted := status, status }
  match (← get).world.openings[n]? with
  | some ⟨.pipe b, _, _, _, _⟩ => return withoutLineEnds (Text.ofBytes b)
  | _ => return ""

/-- Marks all characters as quoted. -/
def quoteAtoms (as : List Atom) : List Atom :=
  as.map fun
    | .char c _ _ => .char c true false
    | a => a

/-- The atoms of a text written in a word, which count as given by an expansion if the word is an
operand. -/
def expandParts (perform : Performer) : (fuel : Nat) → (operand : Bool) → List Part →
    Act (List Atom)
  | 0, _, _ => throw .exhausted
  | fuel + 1, operand, ps => do
    let pieces ← ps.mapM fun p => do
      match p with
      | .char c quoted => return [Atom.char c quoted (operand && !quoted)]
      | .mark => return [.mark]
      | .command body quoted => return Atom.ofText quoted (← substitute perform body)
      | .arithmetic e quoted =>
        let source ← expandParts perform fuel false e
        let n ← arithmetic (plain (joined [' '] source))
        return Atom.ofText quoted (toString n)
      | .parameter name form word quoted =>
        let whole := name = "@" ∨ name = "*"
        let m ← get
        let value := if whole then none else m.parameter? name
        let isSet := if whole then ¬ m.parameters.isEmpty else value.isSome
        let isEmpty := if whole then m.parameters.all (· = "") else value = some ""
        let atoms : List Atom :=
          if whole then allParameters m name quoted else Atom.ofText quoted (value.getD "")
        let checked : Act (List Atom) := do
          if ¬ isSet ∧ m.has 'u' ∧ ¬ whole then notSet name "parameter not set"
          else return atoms
        let operandAtoms : Act (List Atom) := do
          let word ← if quoted then pure word else expandTilde ['/', '\x7d'] word
          let as ← expandParts perform fuel true word
          return if quoted then quoteAtoms as else as
        match form with
        | .plain => checked
        | .bad => fail "Bad substitution"
        | .length =>
          if whole then
            let text := plain (joined m.joint (allParameters m name quoted))
            return Atom.ofText quoted (toString text.length)
          else
            let _ ← checked
            return Atom.ofText quoted (toString (value.getD "").length)
        | .orElse orEmpty => if isSet ∧ ¬ (orEmpty ∧ isEmpty) then return atoms else operandAtoms
        | .instead orEmpty => if isSet ∧ ¬ (orEmpty ∧ isEmpty) then operandAtoms else return []
        | .orAssign orEmpty =>
          if isSet ∧ ¬ (orEmpty ∧ isEmpty) then return atoms
          else if isName name then
            let text := plain (joined [' '] (← operandAtoms))
            assign name text
            return Atom.ofText quoted text
          else fail (name ++ ": bad variable name")
        | .orFail orEmpty =>
          if isSet ∧ ¬ (orEmpty ∧ isEmpty) then return atoms
          else if word.isEmpty then
            notSet name ("parameter not set" ++ if orEmpty then " or null" else "")
          else notSet name (plain (joined [' '] (← operandAtoms)))
        | .strip atEnd longest =>
          let atoms ← checked
          let pattern ← expandParts perform fuel false word
          let gs := Glob.ofText (joined [' '] pattern)
          if whole then
            let cut (s : String) : String := String.ofList (strip atEnd longest gs s.toList)
            return allParameters { m with parameters := m.parameters.map cut } name quoted
          else
            return Atom.ofText quoted
              (String.ofList (strip atEnd longest gs (plain (joined [' '] atoms)).toList))
    return pieces.flatten

/-- How deep substitutions of parameters may nest in a word. -/
def wordDepth : Nat := 200

/-! ## 4. Words -/

/-- The one text that a word stands for, with the marks of what is quoted. -/
def expandWord (perform : Performer) (ps : List Part) : Act (List Quotable) := do
  let ps ← expandTilde ['/'] ps
  let as ← expandParts perform wordDepth false ps
  return joined (← get).joint as

/-- The text of a value that is assigned. -/
def expandValue (perform : Performer) (ps : List Part) : Act String := do
  let ps ← expandTildes ps.length ps
  let as ← expandParts perform wordDepth false ps
  return plain (joined (← get).joint as)

/-- The words that come of a word. -/
def expandFields (perform : Performer) (ps : List Part) : Act (List String) := do
  let ps ← expandTilde ['/'] ps
  let as ← expandParts perform wordDepth false ps
  let m ← get
  let found := fields m.separators as
  if m.has 'f' then return found.map plain
  else return found.flatMap (fieldWords m.world.files)

/-- The text of a here-document. -/
def expandDocument (perform : Performer) (ps : List Part) : Act String := do
  return plain (joined [' '] (← expandParts perform wordDepth false ps))

end TidyTree.Shell
