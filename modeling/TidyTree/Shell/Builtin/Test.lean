/-
TidyTree.Shell.Builtin.Test — conditions on files, texts and numbers.

The words of a condition are read from the left.  Whether a word is an
operator may depend on what follows it, so that operators can be
operands too.
-/
import TidyTree.Shell.Arithmetic

namespace TidyTree.Shell

/-! ## 1. Operators -/

/-- The operators with one operand. -/
def unaryOperators : List String :=
  ["-r", "-w", "-x", "-e", "-f", "-d", "-c", "-b", "-p", "-u", "-g", "-k", "-s", "-t", "-z", "-n",
    "-h", "-O", "-G", "-L", "-S"]

/-- The operators between numbers. -/
def numberOperators : List String := ["-eq", "-ne", "-gt", "-ge", "-lt", "-le"]

/-- The operators with two operands. -/
def binaryOperators : List String := ["=", "!=", "<", ">", "-nt", "-ot", "-ef"] ++ numberOperators

/-- The kinds of words. -/
inductive Role where
  | ended
  | operand
  | unary
  | binary
  | not
  | both
  | either
  | opening
  | closing
deriving DecidableEq, Repr

/-- The kind of a word taken as an operator, if it is one. -/
def operatorRole? (w : String) : Option Role :=
  if unaryOperators.contains w then some .unary
  else if binaryOperators.contains w then some .binary
  else
    match w with
    | "!" => some .not
    | "-a" => some .both
    | "-o" => some .either
    | "(" => some .opening
    | ")" => some .closing
    | _ => none

/-- The kind of the first of some words. -/
def roleOf : List String → Role
  | [] => .ended
  | w :: rest =>
    let role := (operatorRole? w).getD .operand
    match role, rest with
    | .unary, [] => .operand
    | .unary, [_] => .unary
    | .unary, next :: _ => if operatorRole? next = some .binary then .operand else .unary
    | .opening, [] => .operand
    | r, _ => r

/-! ## 2. Files -/

/-- Whether a condition on the file that a path leads to holds. -/
def fileHolds (operator path : String) : Act Bool := do
  let m ← get
  let there ← resolve path
  let isDevice := Text.isAscii path && path.toList.take 5 = "/dev/".toList
  match operator with
  | "-h" | "-L" =>
    match ← entryAt path with
    | .ok (.leaf (.link _)) => return true
    | _ => return false
  | _ =>
    match there with
    | .error _ => return false
    | .ok (.directory _ _ _) =>
      return ["-e", "-r", "-w", "-x", "-d", "-s", "-O", "-G"].contains operator
    | .ok (.file id) =>
      let d := m.world.files.data id
      match operator with
      | "-e" | "-f" | "-r" | "-w" | "-O" | "-G" => return true
      | "-s" => return d.bytes.size ≠ 0 || d.native.isSome
      | "-x" => return d.executable
      | "-u" => return (d.mode &&& 0o4000) ≠ 0
      | "-g" => return (d.mode &&& 0o2000) ≠ 0
      | "-k" => return (d.mode &&& 0o1000) ≠ 0
      | _ => return false
    | .ok .special =>
      match operator with
      | "-e" | "-r" | "-w" | "-O" | "-G" => return true
      | "-c" => return isDevice
      | "-p" => return !isDevice
      | _ => return false

/-- Whether two paths lead to the same file. -/
def sameEntry (a b : String) : Act Bool := do
  match ← resolve a, ← resolve b with
  | .ok (.file i), .ok (.file j) => return i = j
  | .ok (.directory p _ _), .ok (.directory q _ _) => return p = q
  | _, _ => return false

/-! ## 3. Conditions -/

/-- The words from the one that is looked at on. -/
abbrev Words := StateT (List String) Act

/-- Complains about a condition. -/
def conditionFault {α : Type} (word what : String) : Act α :=
  fail (if word = "" then what else word ++ ": " ++ what)

/-- The number that an operand writes. -/
def numberOperand (s : String) : Act Int := do
  match decimal? s with
  | some n => return n
  | none => fail ("Illegal number: " ++ s)

/-- Whether an operator with two operands holds. -/
def binaryHolds (operator a b : String) : Act Bool := do
  match operator with
  | "=" => return a = b
  | "!=" => return a ≠ b
  | "<" => return a < b
  | ">" => return b < a
  | "-ef" => sameEntry a b
  | "-nt" | "-ot" => return false
  | _ =>
    let x ← numberOperand a
    let y ← numberOperand b
    match operator with
    | "-eq" => return x = y
    | "-ne" => return x ≠ y
    | "-gt" => return x > y
    | "-ge" => return x ≥ y
    | "-lt" => return x < y
    | _ => return x ≤ y

/-- Goes on to the next word. -/
def step : Words Unit := modify List.tail

mutual

/-- Conditions of which one has to hold; the words stay at the last one that was used. -/
def anyHolds : (fuel : Nat) → Role → Words Bool
  | 0, _ => return false
  | fuel + 1, role => do
    let a ← allHold fuel role
    if roleOf (← get).tail = .either then
      step
      step
      let b ← anyHolds fuel (roleOf (← get))
      return a || b
    else return a

/-- Conditions that all have to hold. -/
def allHold : (fuel : Nat) → Role → Words Bool
  | 0, _ => return false
  | fuel + 1, role => do
    let a ← notHolds fuel role
    if roleOf (← get).tail = .both then
      step
      step
      let b ← allHold fuel (roleOf (← get))
      return a && b
    else return a

/-- A condition, perhaps turned around. -/
def notHolds : (fuel : Nat) → Role → Words Bool
  | 0, _ => return false
  | fuel + 1, role => do
    if role = .not then
      let next := roleOf (← get).tail
      if next ≠ .ended then step
      return !(← notHolds fuel next)
    else oneHolds fuel role

/-- A single condition. -/
def oneHolds : (fuel : Nat) → Role → Words Bool
  | 0, _ => return false
  | fuel + 1, role => do
    match role with
    | .ended => return false
    | .opening =>
      step
      let next := roleOf (← get)
      if next = .closing then return false
      else
        let a ← anyHolds fuel next
        step
        if roleOf (← get) = .closing then return a
        else conditionFault "" "closing paren expected"
    | .unary =>
      let operator := (← get).headD ""
      step
      match ← get with
      | [] => conditionFault operator "argument expected"
      | w :: _ =>
        match operator with
        | "-z" => return w = ""
        | "-n" => return w ≠ ""
        | "-t" => let _ ← numberOperand w; return false
        | _ => fileHolds operator w
    | _ =>
      let words ← get
      if roleOf words.tail = .binary then
        let operator := words.tail.headD ""
        step
        step
        match ← get with
        | [] => conditionFault operator "argument expected"
        | b :: _ => binaryHolds operator (words.headD "") b
      else return words.headD "" ≠ ""

end

/-- Whether three words are a condition on the first and the last one. -/
def isComparison (words : List String) : Bool :=
  match words with
  | [_, op, _] => operatorRole? op == some .binary
  | _ => false

/-- For three or four words: whether they are turned around, what is left without signs for that
and without parentheses around all, and the kind of the first word. -/
def prepared : List String → Bool × List String × Role
  | [] => (false, [], .ended)
  | w :: rest =>
    if isComparison (w :: rest) then (false, w :: rest, .operand)
    else if rest.length ≠ 2 ∧ rest.length ≠ 3 then (false, w :: rest, roleOf (w :: rest))
    else if w = "(" ∧ rest.getLast? = some ")" then (false, rest.dropLast, roleOf rest.dropLast)
    else if w = "!" then (true, (prepared rest).2)
    else (false, w :: rest, roleOf (w :: rest))

/-- Tests the condition that some words say. -/
def testWords (words : List String) : Act Nat := do
  if words.isEmpty then return 1
  let (negated, words, role) := prepared words
  let (holds, rest) ← (anyHolds (4 * words.length + 8) role).run words
  match rest with
  | w :: _ :: _ => conditionFault w "unexpected operator"
  | _ => return if holds != negated then 0 else 1

/-- Tests a condition; under the name of a bracket the last word has to close it. -/
def test (name : String) (args : List String) : Act Nat := do
  if name = "[" then
    if args.getLast? = some "]" then testWords args.dropLast else fail "missing ]"
  else testWords args

end TidyTree.Shell
