/-
TidyTree.Tool.Awk.Reader — reading programs.

The words of a program are read from left to right, each kind of
expression by a function of its own that reads the next tighter kind for
its parts.  The fuel bounds how deep a program is nested.
-/
import TidyTree.Tool.Awk.Token

namespace TidyTree.Tool.Awk

open Shell (Quantity)

/-! ## 1. State -/

/-- How far a program was read. -/
structure Reading where
  rest : List (Token × Nat)
  line : Nat
  /-- How many loops and functions the statement that is read is in. -/
  loops : Nat
  inFunction : Bool
  /-- Whether records are gone through where the statement is. -/
  hasRecords : Bool
  ranges : Nat
  rules : List Rule
  functions : List (String × Definition)
  /-- The functions that are called, with the lines. -/
  called : List (String × Nat)

/-- Reading a program. -/
abbrev ReadProgram := EStateM Fault Reading

/-- Says that the program is no program. -/
def faulty {α : Type} (text : String) : ReadProgram α := do throw ⟨(← get).line, text⟩

/-- A word as complaints show it. -/
def Token.shown : Token → String
  | number _ => "number"
  | text s => s
  | pattern cs => "/" ++ String.ofList cs ++ "/"
  | name s _ => s
  | builtin f => ((builtins.find? fun b => b.2 = f).map (·.1)).getD ""
  | keyword s => s
  | sign s => s
  | lineEnd => "end of line"

/-- Says that the next word is not possible here. -/
def misplaced {α : Type} : ReadProgram α := do
  match (← get).rest with
  | [] => faulty "unexpected end of program"
  | (t, _) :: _ => faulty ("syntax error at or near " ++ t.shown)

/-- The next word. -/
def peeked : ReadProgram (Option Token) := return ((← get).rest.head?).map (·.1)

/-- Passes over the next word. -/
def pass : ReadProgram Unit :=
  modify fun s =>
    match s.rest with
    | [] => s
    | (_, line) :: rest => { s with rest, line }

/-- Whether the next word is a sign. -/
def nextIs (s : String) : ReadProgram Bool := do
  match ← peeked with
  | some (.sign t) => return s = t
  | _ => return false

/-- Whether the next word is one of the words with a meaning of their own. -/
def nextIsWord (s : String) : ReadProgram Bool := do
  match ← peeked with
  | some (.keyword t) => return s = t
  | _ => return false

/-- Passes over a sign if it comes next. -/
def taken (s : String) : ReadProgram Bool := do
  if ← nextIs s then
    pass
    return true
  else return false

/-- Requires a sign. -/
def require (s : String) : ReadProgram Unit := do if ¬ (← taken s) then misplaced

/-- Passes over words as long as they pass a test. -/
def passWhile (test : Token → Bool) : ReadProgram Unit := do
  let s ← get
  let passed := s.rest.takeWhile fun t => test t.1
  set { s with
    rest := s.rest.drop passed.length
    line := ((passed.map Prod.snd).getLast?).getD s.line }

/-- Whether the word is the end of a line. -/
def Token.isLineEnd : Token → Bool
  | lineEnd => true
  | _ => false

/-- Whether the word ends a statement. -/
def Token.endsStatement : Token → Bool
  | lineEnd => true
  | sign s => s = ";"
  | _ => false

/-- Passes over the ends of lines. -/
def passLineEnds : ReadProgram Unit := passWhile Token.isLineEnd

/-! ## 2. Expressions -/

/-- What is possible at the end of an expression. -/
structure Allowed where
  /-- Whether the sign for "more" compares; where text is printed it does not. -/
  more : Bool

/-- The operations of signs that give values to places. -/
def assignSign? : String → Option (Option Operation)
  | "=" => some none
  | "+=" => some (some .add)
  | "-=" => some (some .subtract)
  | "*=" => some (some .multiply)
  | "/=" => some (some .divide)
  | "%=" => some (some .remainder)
  | "^=" => some (some .power)
  | _ => none

/-- The relations of signs. -/
def relationSign? : String → Option Relation
  | "<" => some .less
  | "<=" => some .atMost
  | "==" => some .equal
  | "!=" => some .unequal
  | ">=" => some .atLeast
  | ">" => some .more
  | _ => none

/-- Whether an expression may begin with the word, behind another expression. -/
def Token.beginsOperand : Token → Bool
  | number _ | text _ | pattern _ | name _ _ | builtin _ => true
  | keyword s => s = "getline"
  | sign s => ["$", "!", "(", "-", "+", "++", "--"].contains s
  | lineEnd => false

/-- The regular expression that was written. -/
def patternExpr (cs : List Char) : ReadProgram Expr := do
  match regexOf cs with
  | .ok r => return .pattern r
  | .error e => faulty (regexComplaint cs e)

/-- Whether a number was written with a fraction or a power that a double can hold. -/
def doubleOf (x : Quantity) : Float :=
  match x.toDouble with
  | .quotient negative n d =>
    let k := d.log2
    let x := (Float.ofNat n).scaleB (-(k : Int))
    if negative then -x else x
  | .infinite negative => if negative then -(1.0 / 0.0) else 1.0 / 0.0
  | .notANumber => 0.0 / 0.0

mutual

/-- Reads an expression. -/
def expression (a : Allowed) : (fuel : Nat) → ReadProgram Expr
  | 0 => misplaced
  | fuel + 1 => do
    let condition ← disjunction a fuel
    if ← taken "?" then
      passLineEnds
      let x ← expression a fuel
      passLineEnds
      require ":"
      passLineEnds
      return .choice condition x (← expression a fuel)
    else return condition

/-- Reads expressions of which one has to hold. -/
def disjunction (a : Allowed) : (fuel : Nat) → ReadProgram Expr
  | 0 => misplaced
  | fuel + 1 => do
    let first ← conjunction a fuel
    if ← taken "||" then
      passLineEnds
      return .either first (← disjunction a fuel)
    else return first

/-- Reads expressions that all have to hold. -/
def conjunction (a : Allowed) : (fuel : Nat) → ReadProgram Expr
  | 0 => misplaced
  | fuel + 1 => do
    let first ← membership a fuel
    if ← taken "&&" then
      passLineEnds
      return .both first (← conjunction a fuel)
    else return first

/-- Reads whether a table has something. -/
def membership (a : Allowed) : (fuel : Nat) → ReadProgram Expr
  | 0 => misplaced
  | fuel + 1 => do tablesBehind fuel (← fitting a fuel)

/-- Reads the tables in which an expression is looked for. -/
def tablesBehind : (fuel : Nat) → Expr → ReadProgram Expr
  | 0, _ => misplaced
  | fuel + 1, e => do
    if ← nextIsWord "in" then
      pass
      match ← peeked with
      | some (.name table _) =>
        pass
        tablesBehind fuel (.isIn [e] table)
      | _ => misplaced
    else return e

/-- Reads whether a text fits a regular expression. -/
def fitting (a : Allowed) : (fuel : Nat) → ReadProgram Expr
  | 0 => misplaced
  | fuel + 1 => do patternsBehind a fuel (← comparison a fuel)

/-- Reads the regular expressions that an expression has to fit. -/
def patternsBehind (a : Allowed) : (fuel : Nat) → Expr → ReadProgram Expr
  | 0, _ => misplaced
  | fuel + 1, e => do
    if ← taken "~" then patternsBehind a fuel (.fits false e (← comparison a fuel))
    else if ← taken "!~" then patternsBehind a fuel (.fits true e (← comparison a fuel))
    else return e

/-- Reads a comparison. -/
def comparison (a : Allowed) : (fuel : Nat) → ReadProgram Expr
  | 0 => misplaced
  | fuel + 1 => do
    let first ← joining fuel
    match ← peeked with
    | some (.sign s) =>
      match relationSign? s with
      | some r =>
        if s = ">" ∧ ¬ a.more then return first
        else if s = ">=" ∧ ¬ a.more then misplaced
        else
          pass
          return .compared r first (← joining fuel)
      | none => return first
    | _ => return first

/-- Reads expressions whose texts are joined. -/
def joining : (fuel : Nat) → ReadProgram Expr
  | 0 => misplaced
  | fuel + 1 => do joinedBehind fuel (← sum fuel)

/-- Reads what is joined to an expression. -/
def joinedBehind : (fuel : Nat) → Expr → ReadProgram Expr
  | 0, _ => misplaced
  | fuel + 1, e => do
    match ← peeked with
    | some t => if t.beginsOperand then joinedBehind fuel (.joined e (← sum fuel)) else return e
    | none => return e

/-- Reads a sum. -/
def sum : (fuel : Nat) → ReadProgram Expr
  | 0 => misplaced
  | fuel + 1 => do addedBehind fuel (← product fuel)

/-- Reads what is added to an expression. -/
def addedBehind : (fuel : Nat) → Expr → ReadProgram Expr
  | 0, _ => misplaced
  | fuel + 1, e => do
    if ← taken "+" then addedBehind fuel (.binary .add e (← product fuel))
    else if ← taken "-" then addedBehind fuel (.binary .subtract e (← product fuel))
    else return e

/-- Reads a product. -/
def product : (fuel : Nat) → ReadProgram Expr
  | 0 => misplaced
  | fuel + 1 => do factorsBehind fuel (← signed fuel)

/-- Reads the factors behind an expression. -/
def factorsBehind : (fuel : Nat) → Expr → ReadProgram Expr
  | 0, _ => misplaced
  | fuel + 1, e => do
    if ← taken "*" then factorsBehind fuel (.binary .multiply e (← signed fuel))
    else if ← taken "/" then factorsBehind fuel (.binary .divide e (← signed fuel))
    else if ← taken "%" then factorsBehind fuel (.binary .remainder e (← signed fuel))
    else return e

/-- Reads an expression with signs in front. -/
def signed : (fuel : Nat) → ReadProgram Expr
  | 0 => misplaced
  | fuel + 1 => do
    if ← taken "!" then return .opposite (← signed fuel)
    else if ← taken "-" then return .negative (← signed fuel)
    else if ← taken "+" then return .positive (← signed fuel)
    else
      let base ← operand fuel
      if ← taken "^" then return .binary .power base (← signed fuel)
      else return base

/-- Reads an operand with the commands behind it whose records are asked for. -/
def operand : (fuel : Nat) → ReadProgram Expr
  | 0 => misplaced
  | fuel + 1 => do commandsBehind fuel (← counted fuel)

/-- Reads whether records of a command are asked for. -/
def commandsBehind : (fuel : Nat) → Expr → ReadProgram Expr
  | 0, _ => misplaced
  | fuel + 1, e => do
    match (← get).rest with
    | (.sign "|", _) :: (.keyword "getline", _) :: _ =>
      pass
      pass
      commandsBehind fuel (.record .command (some e) (← placeOrNone fuel))
    | _ => return e

/-- Reads a place behind which it may be counted or be given a value. -/
def counted : (fuel : Nat) → ReadProgram Expr
  | 0 => misplaced
  | fuel + 1 => do
    let e ← primary fuel
    if ¬ e.isPlace then return e
    else if ← taken "++" then return .step false true e
    else if ← taken "--" then return .step false false e
    else
      match ← peeked with
      | some (.sign s) =>
        match assignSign? s with
        | some operation =>
          pass
          passLineEnds
          return .assign operation e (← expression ⟨true⟩ fuel)
        | none => return e
      | _ => return e

/-- Reads a place if one comes next. -/
def placeOrNone : (fuel : Nat) → ReadProgram (Option Expr)
  | 0 => return none
  | fuel + 1 => do
    match ← peeked with
    | some (.name _ false) | some (.sign "$") => return some (← primary fuel)
    | _ => return none

/-- Reads expressions between commas. -/
def expressions (a : Allowed) : (fuel : Nat) → ReadProgram (List Expr)
  | 0 => misplaced
  | fuel + 1 => do
    let first ← expression a fuel
    if ← taken "," then
      passLineEnds
      return first :: (← expressions a fuel)
    else return [first]

/-- Reads arguments from behind the parenthesis. -/
def arguments : (fuel : Nat) → ReadProgram (List Expr)
  | 0 => misplaced
  | fuel + 1 => do
    passLineEnds
    if ← taken ")" then return []
    else
      let all ← expressions ⟨true⟩ fuel
      passLineEnds
      if ← taken ")" then return all
      else faulty "missing ) near end of line"

/-- Reads an expression that cannot be taken apart by signs. -/
def primary : (fuel : Nat) → ReadProgram Expr
  | 0 => misplaced
  | fuel + 1 => do
    match ← peeked with
    | some (.number x) =>
      pass
      return .number (doubleOf x)
    | some (.text s) =>
      pass
      return .text s
    | some (.pattern cs) =>
      pass
      patternExpr cs
    | some (.builtin f) =>
      pass
      if ← taken "(" then return .builtin f (← arguments fuel)
      else if f = .length ∨ f = .rand ∨ f = .flush ∨ f = .srand ∨ f = .time then
        return .builtin f []
      else misplaced
    | some (.keyword "getline") =>
      pass
      let place ← placeOrNone fuel
      if ← taken "<" then return .record .file (some (← counted fuel)) place
      else return .record .input none place
    | some (.name s isCalled) =>
      let isFunction := (← get).functions.any fun f => f.1 = s
      pass
      if isCalled ∨ (isFunction ∧ (← nextIs "(")) then
        pass
        modify fun st => { st with called := (s, st.line) :: st.called }
        return .call s (← arguments fuel)
      else if ← taken "[" then
        let subscripts ← expressions ⟨true⟩ fuel
        require "]"
        return .element s subscripts
      else return .named s
    | some (.sign "$") =>
      pass
      match ← peeked with
      | some (.sign "-") =>
        pass
        return .field (.negative (← primary fuel))
      | _ => return .field (← primary fuel)
    | some (.sign "++") =>
      pass
      return .step true true (← placeBehind fuel)
    | some (.sign "--") =>
      pass
      return .step true false (← placeBehind fuel)
    | some (.sign "(") =>
      pass
      let all ← arguments fuel
      match all with
      | [] => misplaced
      | [e] => return .grouped e
      | _ =>
        if ← nextIsWord "in" then
          pass
          match ← peeked with
          | some (.name table _) =>
            pass
            return .isIn all table
          | _ => misplaced
        else misplaced
    | _ => misplaced

/-- Reads a place. -/
def placeBehind : (fuel : Nat) → ReadProgram Expr
  | 0 => misplaced
  | fuel + 1 => do
    let e ← primary fuel
    if e.isPlace then return e else misplaced

end

/-! ## 3. Statements -/

/-- What follows the parenthesis that closes the first one. -/
def behindParenthesis : (depth : Nat) → List (Token × Nat) → List (Token × Nat)
  | _, [] => []
  | depth, (t, _) :: rest =>
    match t with
    | .sign "(" => behindParenthesis (depth + 1) rest
    | .sign ")" => if depth ≤ 1 then rest else behindParenthesis (depth - 1) rest
    | _ => behindParenthesis depth rest

/-- Whether a list of values to be printed ends before these words. -/
def endsPrinting : List (Token × Nat) → Bool
  | [] => true
  | (t, _) :: _ =>
    match t with
    | .lineEnd => true
    | .sign s => [";", "\x7d", ">", ">>", "|"].contains s
    | _ => false

/-- Reads what is printed. -/
def printedValues (fuel : Nat) : ReadProgram (List Expr) := do
  let rest := (← get).rest
  if endsPrinting rest then return []
  else
    let isList := (← nextIs "(") && endsPrinting (behindParenthesis 0 rest)
    if isList then
      pass
      arguments fuel
    else expressions ⟨false⟩ fuel

/-- Reads where text is printed to. -/
def destination (fuel : Nat) : ReadProgram Destination := do
  if ← taken ">" then return .file (← expression ⟨false⟩ fuel) false
  else if ← taken ">>" then return .file (← expression ⟨false⟩ fuel) true
  else if ← taken "|" then return .command (← expression ⟨false⟩ fuel)
  else return .output

/-- Requires that a statement ends here; the brace that closes a block may do that. -/
def endStatement : ReadProgram Unit := do
  match ← peeked with
  | none => pure ()
  | some t =>
    if t.endsStatement then
      pass
      passLineEnds
    else if ¬ (← nextIs "\x7d") then misplaced

/-- Reads an expression between parentheses, behind which lines may end. -/
def conditionPart (fuel : Nat) : ReadProgram Expr := do
  require "("
  let e ← expression ⟨true⟩ fuel
  if ¬ (← taken ")") then faulty "missing ) near end of line"
  passLineEnds
  return e

/-- Reads the value behind a word, if there is one. -/
def valueOrNone (fuel : Nat) : ReadProgram (Option Expr) := do
  if endsPrinting (← get).rest then return none else return some (← expression ⟨true⟩ fuel)

/-- Reads a statement that has no other statements in it. -/
def simpleStatement (fuel : Nat) : ReadProgram Statement := do
  match ← peeked with
  | some (.keyword "print") =>
    pass
    let values ← printedValues fuel
    return .print values (← destination fuel)
  | some (.keyword "printf") =>
    pass
    let values ← printedValues fuel
    if values.isEmpty then misplaced
    return .printf values (← destination fuel)
  | some (.keyword "delete") =>
    pass
    match ← peeked with
    | some (.name table _) =>
      pass
      if ← taken "[" then
        let subscripts ← expressions ⟨true⟩ fuel
        require "]"
        return .remove table subscripts
      else return .remove table []
    | _ => misplaced
  | _ => return .compute (← expression ⟨true⟩ fuel)

/-- Reads a jump, if the word begins one. -/
def jump? (fuel : Nat) (word : String) : ReadProgram (Option Statement) := do
  let s ← get
  match word with
  | "break" =>
    if s.loops = 0 then faulty "break statement outside of loop"
    pass
    return some .leaveLoop
  | "continue" =>
    if s.loops = 0 then faulty "continue statement outside of loop"
    pass
    return some .nextRound
  | "next" =>
    if ¬ s.hasRecords then faulty "improper use of next"
    pass
    return some .nextRecord
  | "nextfile" =>
    if ¬ s.hasRecords then faulty "improper use of nextfile"
    pass
    return some .nextFile
  | "exit" =>
    pass
    return some (.exit (← valueOrNone fuel))
  | "return" =>
    if ¬ s.inFunction then faulty "return outside function body"
    pass
    return some (.giveBack (← valueOrNone fuel))
  | _ => return none

/-- Does something as in a loop. -/
def inLoop {α : Type} (a : ReadProgram α) : ReadProgram α := do
  modify fun s => { s with loops := s.loops + 1 }
  let x ← a
  modify fun s => { s with loops := s.loops - 1 }
  return x

mutual

/-- Reads a statement. -/
def statement : (fuel : Nat) → ReadProgram Statement
  | 0 => misplaced
  | fuel + 1 => do
    match ← peeked with
    | some (.sign "\x7b") => return .block (← blockPart fuel)
    | some (.sign ";") =>
      pass
      passLineEnds
      return .block []
    | some (.keyword "if") =>
      pass
      let condition ← conditionPart fuel
      let a ← statement fuel
      let s ← get
      let ahead := s.rest.dropWhile fun t => t.1.endsStatement
      match ahead with
      | (.keyword "else", _) :: _ =>
        passWhile Token.endsStatement
        pass
        passLineEnds
        return .ifElse condition [a] [← statement fuel]
      | _ => return .ifElse condition [a] []
    | some (.keyword "while") =>
      pass
      let condition ← conditionPart fuel
      if ← taken ";" then
        passLineEnds
        return .loop true (some condition) [] []
      else return .loop true (some condition) [← inLoop (statement fuel)] []
    | some (.keyword "do") =>
      pass
      passLineEnds
      let body ← inLoop (statement fuel)
      passWhile Token.endsStatement
      if ¬ (← nextIsWord "while") then misplaced
      pass
      require "("
      let condition ← expression ⟨true⟩ fuel
      require ")"
      endStatement
      return .loop false (some condition) [body] []
    | some (.keyword "for") =>
      pass
      require "("
      match (← get).rest with
      | (.name s _, _) :: (.keyword "in", _) :: (.name table _, _) :: (.sign ")", _) :: _ =>
        pass
        pass
        pass
        pass
        passLineEnds
        return .forIn s table [← inLoop (statement fuel)]
      | _ =>
        let start ← if ← nextIs ";" then pure [] else pure [← simpleStatement fuel]
        require ";"
        passLineEnds
        let condition ← if ← nextIs ";" then pure none
          else pure (some (← expression ⟨true⟩ fuel))
        require ";"
        passLineEnds
        let after ← if ← nextIs ")" then pure [] else pure [← simpleStatement fuel]
        require ")"
        passLineEnds
        let body ← inLoop (statement fuel)
        return .block (start ++ [.loop true condition [body] after])
    | some (.keyword word) =>
      match ← jump? fuel word with
      | some s =>
        endStatement
        return s
      | none =>
        let s ← simpleStatement fuel
        endStatement
        return s
    | _ =>
      let s ← simpleStatement fuel
      endStatement
      return s

/-- Reads statements between braces, behind which lines may end. -/
def blockPart : (fuel : Nat) → ReadProgram (List Statement)
  | 0 => misplaced
  | fuel + 1 => do
    require "\x7b"
    passWhile Token.endsStatement
    let body ← statements fuel
    passWhile Token.endsStatement
    return body

/-- Reads statements up to the closing brace. -/
def statements : (fuel : Nat) → ReadProgram (List Statement)
  | 0 => misplaced
  | fuel + 1 => do
    passWhile Token.endsStatement
    if ← taken "\x7d" then return []
    else if (← peeked).isNone then faulty "missing \x7d near end of file"
    else
      let first ← statement fuel
      return first :: (← statements fuel)

end

/-! ## 4. Programs -/

/-- Reads the names of parameters from behind the parenthesis. -/
def parameterNames : (fuel : Nat) → ReadProgram (List String)
  | 0 => misplaced
  | fuel + 1 => do
    passLineEnds
    match ← peeked with
    | some (.sign ")") =>
      pass
      return []
    | some (.name s _) =>
      pass
      passLineEnds
      if ← taken "," then return s :: (← parameterNames fuel)
      else
        require ")"
        return [s]
    | _ => misplaced

/-- Reads an action; `records` says that it is carried out for records. -/
def actionPart (records : Bool) (fuel : Nat) : ReadProgram (List Statement) := do
  modify fun s => { s with hasRecords := records, loops := 0, inFunction := false }
  blockPart fuel

/-- Reads a function from behind its word. -/
def functionPart (fuel : Nat) : ReadProgram Unit := do
  match ← peeked with
  | some (.name s _) =>
    pass
    require "("
    let parameters ← parameterNames fuel
    passLineEnds
    modify fun st => { st with
      functions := st.functions ++ [(s, ⟨parameters, []⟩)]
      hasRecords := false
      loops := 0
      inFunction := true }
    let body ← blockPart fuel
    modify fun st => { st with
      functions := st.functions.map fun f => if f.1 = s then (s, ⟨parameters, body⟩) else f }
  | _ => misplaced

/-- Adds a rule. -/
def addRule (r : Rule) : ReadProgram Unit := modify fun s => { s with rules := s.rules ++ [r] }

/-- Reads the parts of a program. -/
def parts : (fuel : Nat) → ReadProgram Unit
  | 0 => pure ()
  | fuel + 1 => do
    passWhile Token.endsStatement
    match ← peeked with
    | none => pure ()
    | some (.keyword "function") =>
      pass
      functionPart fuel
      parts fuel
    | some (.keyword "BEGIN") =>
      pass
      addRule ⟨.begin, ← actionPart false fuel⟩
      parts fuel
    | some (.keyword "END") =>
      pass
      addRule ⟨.finish, ← actionPart false fuel⟩
      parts fuel
    | some (.sign "\x7b") =>
      addRule ⟨.always, ← actionPart true fuel⟩
      parts fuel
    | _ =>
      let first ← expression ⟨true⟩ fuel
      let pattern ← do
        if ← taken "," then
          passLineEnds
          let last ← expression ⟨true⟩ fuel
          let number := (← get).ranges
          modify fun s => { s with ranges := number + 1 }
          pure (Pattern.range number first last)
        else pure (Pattern.when first)
      if ← nextIs "\x7b" then addRule ⟨pattern, ← actionPart true fuel⟩
      else
        endStatement
        addRule ⟨pattern, [.print [] .output]⟩
      parts fuel

/-- Reads a program. -/
def Program.ofText (text : String) : Except Fault Program := do
  let words ← tokens text
  match (parts (20 * words.length + 100)).run ⟨words, 1, 0, false, false, 0, [], [], []⟩ with
  | .error e _ => throw e
  | .ok _ s =>
    match s.called.reverse.find? fun c => !s.functions.any fun f => f.1 = c.1 with
    | some (name, line) => throw ⟨line, "function " ++ name ++ " never defined"⟩
    | none => return ⟨s.rules, s.functions⟩

end TidyTree.Tool.Awk
