/-
TidyTree.Shell.Arithmetic — expressions over whole numbers.

Numbers have 64 bits with a sign and wrap around.  `Expression.ofText`
reads an expression with the usual binding of the operators, and
`value` works it out, setting variables where it says so.  Operands
that the result does not need are not worked out.
-/
import TidyTree.Shell.Machine
import TidyTree.Shell.Pattern

namespace TidyTree.Shell

/-! ## 1. Numbers -/

/-- The number with 64 bits that an integer wraps around to. -/
def wrap (n : Int) : Int := Int.bmod n 18446744073709551616

/-- The number of a digit in bases up to sixteen. -/
def digitValue? (c : Char) : Option Nat :=
  let n := c.toNat
  if c.isDigit then some (n - 48)
  else if 97 ≤ n ∧ n ≤ 102 then some (n - 87)
  else if 65 ≤ n ∧ n ≤ 70 then some (n - 55)
  else none

/-- The number that the digits at the front of a text write in a base, and what follows them. -/
def digits (base : Nat) (cs : List Char) : Nat × List Char :=
  let isDigit (c : Char) : Bool := (digitValue? c).any (· < base)
  ((cs.takeWhile isDigit).foldl (fun n c => n * base + (digitValue? c).getD 0) 0,
    cs.dropWhile isDigit)

/-- The largest number. -/
def largest : Nat := 9223372036854775807

/-- The number without a sign at the front of a text, whose base shows in how it begins, and what
follows it; none if there is no digit. -/
def natural? (cs : List Char) : Option (Nat × List Char) :=
  match cs with
  | '0' :: x :: d :: rest =>
    if (x = 'x' ∨ x = 'X') ∧ (digitValue? d).isSome then some (digits 16 (d :: rest))
    else some (digits 8 cs)
  | '0' :: _ => some (digits 8 cs)
  | c :: _ => if c.isDigit then some (digits 10 cs) else none
  | [] => none

/-- The decimal number that a whole text writes, with a sign and blanks around it allowed; it has to
lie in the range of numbers. -/
def decimal? (s : String) : Option Int :=
  let isBlank (c : Char) : Bool := CharClass.space.has c
  let cs := s.toList.dropWhile isBlank
  let (negative, ds) :=
    match cs with
    | '-' :: ds => (true, ds)
    | '+' :: ds => (false, ds)
    | _ => (false, cs)
  let front := ds.takeWhile Char.isDigit
  let n := (digits 10 front).1
  if front.isEmpty ∨ ¬ (ds.drop front.length).all isBlank then none
  else if n ≤ largest then some (if negative then -(n : Int) else n)
  else none

/-- The number that a whole text writes, blanks around it allowed; nothing is zero. -/
def integer? (s : String) : Option Int :=
  let isBlank (c : Char) : Bool := CharClass.space.has c
  let cs := s.toList.dropWhile isBlank
  let (negative, ds) :=
    match cs with
    | '-' :: ds => (true, ds)
    | '+' :: ds => (false, ds)
    | _ => (false, cs)
  match natural? ds with
  | some (n, rest) =>
    if rest.all isBlank then
      some (if negative then -(min n (largest + 1) : Nat) else (min n largest : Nat))
    else none
  | none => if s.toList.all isBlank then some 0 else none

/-! ## 2. Expressions -/

/-- What a sign does with two numbers. -/
inductive Operation where
  | times | passed | modulo | plus | minus | shiftLeft | shiftRight
  | less | lessEqual | greater | greaterEqual | equal | unequal
  | bitAnd | bitXor | bitOr
deriving DecidableEq, Repr

namespace Operation

/-- How tightly an operation binds. -/
def binding : Operation → Nat
  | times | passed | modulo => 8
  | plus | minus => 7
  | shiftLeft | shiftRight => 6
  | less | lessEqual | greater | greaterEqual => 5
  | equal | unequal => 4
  | bitAnd => 3
  | bitXor => 2
  | bitOr => 1

/-- The bits of a number with a sign. -/
def bits (n : Int) : Nat := (n % 18446744073709551616).toNat

/-- The result, unless it would be a division by zero. -/
def result? (o : Operation) (a b : Int) : Option Int :=
  let truth (p : Bool) : Int := if p then 1 else 0
  match o with
  | times => some (wrap (a * b))
  | passed => if b = 0 then none else some (wrap (a.tdiv b))
  | modulo => if b = 0 then none else some (a.tmod b)
  | plus => some (wrap (a + b))
  | minus => some (wrap (a - b))
  | shiftLeft => some (wrap (a * ((1 <<< ((b % 64).toNat) : Nat) : Int)))
  | shiftRight => some (a >>> (b % 64).toNat)
  | less => some (truth (a < b))
  | lessEqual => some (truth (a ≤ b))
  | greater => some (truth (a > b))
  | greaterEqual => some (truth (a ≥ b))
  | equal => some (truth (a = b))
  | unequal => some (truth (a ≠ b))
  | bitAnd => some (wrap (bits a &&& bits b : Nat))
  | bitXor => some (wrap (bits a ^^^ bits b : Nat))
  | bitOr => some (wrap (bits a ||| bits b : Nat))

end Operation

/-- An expression. -/
inductive Expression where
  | number (n : Int)
  | name (s : String)
  | negative (e : Expression)
  | not (e : Expression)
  | complement (e : Expression)
  | binary (o : Operation) (a b : Expression)
  | both (a b : Expression)
  | either (a b : Expression)
  | choice (condition a b : Expression)
  /-- Sets a variable, to a value or to what an operation gives on its old value. -/
  | assign (target : String) (o : Option Operation) (e : Expression)

/-- A part of an expression. -/
inductive Term where
  | number (n : Int)
  | name (s : String)
  | sign (s : String)
deriving DecidableEq, Repr

/-- The signs, longer ones first. -/
def signs : List String :=
  ["<<=", ">>=", "==", "!=", "<=", ">=", "&&", "||", "<<", ">>", "+=", "-=", "*=", "/=", "%=", "&=",
    "|=", "^=", "+", "-", "*", "/", "%", "(", ")", "<", ">", "!", "~", "&", "|", "^", "?", ":", "="]

/-- The parts of an expression; an unknown character ends it with the sign that it is. -/
def terms : (fuel : Nat) → List Char → List Term
  | 0, _ => []
  | _ + 1, [] => []
  | fuel + 1, c :: cs =>
    if c = ' ' ∨ c = '\t' ∨ c = '\n' then terms fuel cs
    else if isNameStart c then
      let n := (c :: cs).takeWhile isNameChar
      .name (String.ofList n) :: terms fuel ((c :: cs).drop n.length)
    else
      match natural? (c :: cs) with
      | some (n, rest) => .number (min n largest : Nat) :: terms fuel rest
      | none =>
        match signs.find? fun s => s.toList.isPrefixOf (c :: cs) with
        | some s => .sign s :: terms fuel ((c :: cs).drop s.length)
        | none => [.sign c.toString]

/-- The operation of a sign. -/
def operation? : String → Option Operation
  | "*" => some .times
  | "/" => some .passed
  | "%" => some .modulo
  | "+" => some .plus
  | "-" => some .minus
  | "<<" => some .shiftLeft
  | ">>" => some .shiftRight
  | "<" => some .less
  | "<=" => some .lessEqual
  | ">" => some .greater
  | ">=" => some .greaterEqual
  | "==" => some .equal
  | "!=" => some .unequal
  | "&" => some .bitAnd
  | "^" => some .bitXor
  | "|" => some .bitOr
  | _ => none

/-- The operation of a sign that sets a variable; the plain sign has none. -/
def assigning? (s : String) : Option (Option Operation) :=
  if s = "=" then some none
  else if ["<<=", ">>=", "+=", "-=", "*=", "/=", "%=", "&=", "|=", "^="].contains s then
    some (operation? (String.ofList s.toList.dropLast))
  else none

/-- The levels of an expression, from the loosest one on. -/
inductive Level where
  | assignment
  | choice
  | either
  | both
  /-- Operations that bind at least so tightly. -/
  | operations (binding : Nat)
  | operand
deriving DecidableEq, Repr

mutual

/-- Reads an expression of a level; gives what follows it too. -/
def expressionAt : (fuel : Nat) → Level → List Term → Except String (Expression × List Term)
  | 0, _, _ => .error "expecting primary"
  | fuel + 1, level, ts =>
    match level with
    | .assignment =>
      match ts with
      | .name n :: .sign s :: rest =>
        match assigning? s with
        | some o => do
          let (e, rest) ← expressionAt fuel .assignment rest
          return (.assign n o e, rest)
        | none => expressionAt fuel .choice ts
      | _ => expressionAt fuel .choice ts
    | .choice => do
      let (c, rest) ← expressionAt fuel .either ts
      match rest with
      | .sign "?" :: rest =>
        let (a, rest) ← expressionAt fuel .assignment rest
        match rest with
        | .sign ":" :: rest =>
          let (b, rest) ← expressionAt fuel .choice rest
          return (.choice c a b, rest)
        | _ => throw "expecting ':'"
      | _ => return (c, rest)
    | .either => do
      let (a, rest) ← expressionAt fuel .both ts
      match rest with
      | .sign "||" :: rest =>
        let (b, rest) ← expressionAt fuel .either rest
        return (.either a b, rest)
      | _ => return (a, rest)
    | .both => do
      let (a, rest) ← expressionAt fuel (.operations 0) ts
      match rest with
      | .sign "&&" :: rest =>
        let (b, rest) ← expressionAt fuel .both rest
        return (.both a b, rest)
      | _ => return (a, rest)
    | .operations binding => do
      let (a, rest) ← expressionAt fuel .operand ts
      operationsFrom fuel binding a rest
    | .operand =>
      match ts with
      | .number n :: rest => return (.number n, rest)
      | .name s :: rest => return (.name s, rest)
      | .sign "+" :: rest => expressionAt fuel .operand rest
      | .sign "-" :: rest => do
        let (e, rest) ← expressionAt fuel .operand rest
        return (.negative e, rest)
      | .sign "!" :: rest => do
        let (e, rest) ← expressionAt fuel .operand rest
        return (.not e, rest)
      | .sign "~" :: rest => do
        let (e, rest) ← expressionAt fuel .operand rest
        return (.complement e, rest)
      | .sign "(" :: rest => do
        let (e, rest) ← expressionAt fuel .assignment rest
        match rest with
        | .sign ")" :: rest => return (e, rest)
        | _ => throw "expecting ')'"
      | _ => throw "expecting primary"

/-- Goes on behind an operand with the operations that bind more tightly than `binding`. -/
def operationsFrom : (fuel : Nat) → (binding : Nat) → Expression → List Term →
    Except String (Expression × List Term)
  | 0, _, a, ts => .ok (a, ts)
  | fuel + 1, binding, a, ts =>
    match ts with
    | .sign s :: rest =>
      match operation? s with
      | some o =>
        if binding < o.binding then do
          let (b, rest) ← expressionAt fuel .operand rest
          let (b, rest) ← operationsFrom fuel o.binding b rest
          operationsFrom fuel binding (.binary o a b) rest
        else .ok (a, ts)
      | none => .ok (a, ts)
    | _ => .ok (a, ts)

end

/-- Reads an expression; the error says what is missing. -/
def Expression.ofText (s : String) : Except String Expression := do
  let ts := terms (s.length + 1) s.toList
  let (e, rest) ← expressionAt (8 * ts.length + 8) .assignment ts
  if rest.isEmpty then return e else throw "expecting EOF"

/-! ## 3. Values -/

/-- Fails with what is wrong with an expression. -/
def arithmeticError {α : Type} (source what : String) : Act α :=
  fail ("arithmetic expression: " ++ what ++ ": \"" ++ source ++ "\"")

/-- The number that a variable holds; none at all counts as zero. -/
def numberIn (name : String) : Act Int := do
  let m ← get
  match m.value? name with
  | none => return 0
  | some s =>
    match integer? s with
    | some n => return n
    | none => fail ("Illegal number: " ++ s)

/-- The result of an operation in an expression. -/
def operate (source : String) (o : Operation) (a b : Int) : Act Int :=
  match o.result? a b with
  | some n => return n
  | none => arithmeticError source "division by zero"

/-- The value of an expression. -/
def Expression.value (source : String) : Expression → Act Int
  | .number n => return n
  | .name s => numberIn s
  | .negative e => return wrap (-(← e.value source))
  | .not e => return if (← e.value source) = 0 then 1 else 0
  | .complement e => return -(← e.value source) - 1
  | .binary o a b => do
    let x ← a.value source
    let y ← b.value source
    operate source o x y
  | .both a b => do
    if (← a.value source) = 0 then return 0
    else return if (← b.value source) = 0 then 0 else 1
  | .either a b => do
    if (← a.value source) ≠ 0 then return 1
    else return if (← b.value source) = 0 then 0 else 1
  | .choice c a b => do
    if (← c.value source) ≠ 0 then a.value source else b.value source
  | .assign target o e => do
    let n ← e.value source
    let n ← match o with
      | none => pure n
      | some o => do operate source o (← numberIn target) n
    TidyTree.Shell.assign target (toString n)
    return n

/-- The number that an argument of a command writes, which may not be negative. -/
def count (s : String) : Act Nat := do
  match decimal? s with
  | some n => if 0 ≤ n ∧ n < 2147483648 then return n.toNat else fail ("Illegal number: " ++ s)
  | none => fail ("Illegal number: " ++ s)

/-- The value of the expression that a text writes. -/
def arithmetic (source : String) : Act Int := do
  match Expression.ofText source with
  | .ok e => e.value source
  | .error what => arithmeticError source what

end TidyTree.Shell
