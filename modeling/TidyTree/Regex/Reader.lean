/-
TidyTree.Regex.Reader — reading regular expressions.

There are two ways to write them.  In the basic one a backslash gives
parentheses, braces and bars their meaning, in the extended one it takes
it away.  What repeats and has nothing in front of it stands for itself,
is passed over or is refused, depending on the dialect.
-/
import TidyTree.Regex.Basic

namespace TidyTree

/-! ## 1. Dialects and faults -/

/-- A way to write regular expressions. -/
structure RegexDialect where
  extended : Bool
  /-- Whether a repetition of nothing is refused where it would have a meaning. -/
  strict : Bool
deriving DecidableEq

/-- Why a text is no regular expression. -/
inductive RegexFault where
  | emptyBracket
  | openBracket
  | openGroup
  | closedGroup
  | openInterval
  | badInterval
  | nothingToRepeat
  | badReference
  | badRange
  | badClass
  | badCollation
  | endingBackslash
  | tooLarge
deriving DecidableEq, Repr

/-- What is wrong, in words. -/
def RegexFault.message : RegexFault → String
  | emptyBracket => "Invalid regular expression"
  | openBracket => "Unmatched [, [^, [:, [., or [="
  | openGroup => "Unmatched ( or \\("
  | closedGroup => "Unmatched ) or \\)"
  | openInterval => "Unmatched \\\x7b"
  | badInterval => "Invalid content of \\\x7b\\\x7d"
  | nothingToRepeat => "Invalid preceding regular expression"
  | badReference => "Invalid back reference"
  | badRange => "Invalid range end"
  | badClass => "Invalid character class name"
  | badCollation => "Invalid collation character"
  | endingBackslash => "Trailing backslash"
  | tooLarge => "Regular expression too big"

/-! ## 2. Signs -/

/-- What comes next in an expression. -/
inductive RegexSign where
  | openGroup
  | closeGroup
  | bar
  | star
  | plus
  | maybe
  | interval
  | caret
  | dollar
  | dot
  | bracket
  | escaped (c : Char)
  | plain (c : Char)
deriving DecidableEq

/-- The sign of a character that has a meaning, behind a backslash in the basic way. -/
def regexSign? : Char → Option RegexSign
  | '(' => some .openGroup
  | ')' => some .closeGroup
  | '|' => some .bar
  | '+' => some .plus
  | '?' => some .maybe
  | '\x7b' => some .interval
  | _ => none

/-- The next sign and what follows it. -/
def nextSign (d : RegexDialect) : List Char → Except RegexFault (Option (RegexSign × List Char))
  | [] => .ok none
  | ['\\'] => .error .endingBackslash
  | '\\' :: c :: cs =>
    .ok (some (if d.extended then (.escaped c, cs) else ((regexSign? c).getD (.escaped c), cs)))
  | c :: cs =>
    let sign : RegexSign := match c with
      | '*' => .star
      | '^' => .caret
      | '$' => .dollar
      | '.' => .dot
      | '[' => .bracket
      | _ => if d.extended then (regexSign? c).getD (.plain c) else .plain c
    .ok (some (sign, cs))

/-! ## 3. Brackets -/

/-- Reads a member that is a single character: the character and what follows it. -/
def bracketChar : List Char → Except RegexFault (Char × List Char)
  | '[' :: '.' :: c :: '.' :: ']' :: cs => .ok (c, cs)
  | '[' :: '=' :: c :: '=' :: ']' :: cs => .ok (c, cs)
  | '[' :: '.' :: cs | '[' :: '=' :: cs =>
    .error (if cs.contains ']' then .badCollation else .openBracket)
  | c :: cs => .ok (c, cs)
  | [] => .error .openBracket

/-- Reads the members of a bracket. -/
def bracketMembers : (fuel : Nat) → (atStart : Bool) → List Member → List Char →
    Except RegexFault (List Member × List Char)
  | 0, _, _, _ => .error .openBracket
  | _ + 1, _, _, [] => .error .openBracket
  | fuel + 1, atStart, done, c :: cs =>
    if c = ']' ∧ atStart = false then .ok (done.reverse, cs)
    else if c = '-' ∧ atStart = false ∧ cs.head? ≠ some ']' then
      .error (if cs.isEmpty then .openBracket else .badRange)
    else
      match c, cs with
      | '[', ':' :: more =>
        match CharClass.ofFront? more with
        | some (k, n) => bracketMembers fuel false (.kind k :: done) (more.drop n)
        | none => .error (if more.contains ']' then .badClass else .openBracket)
      | _, _ => do
        let (first, rest) ← bracketChar (c :: cs)
        match rest with
        | '-' :: ']' :: _ => bracketMembers fuel false (.range first first :: done) rest
        | '-' :: more =>
          let (last, rest) ← bracketChar more
          if last < first then .error .badRange
          else bracketMembers fuel false (.range first last :: done) rest
        | _ => bracketMembers fuel false (.range first first :: done) rest

/-- Reads what stands behind an opening bracket. -/
def bracketRegex (cs : List Char) : Except RegexFault (Regex × List Char) := do
  let (negated, cs) := match cs with
    | '^' :: more => (true, more)
    | _ => (false, cs)
  if cs.isEmpty then throw .emptyBracket
  let (members, rest) ← bracketMembers (cs.length + 1) true [] cs
  return (.oneOf negated members, rest)

/-! ## 4. Intervals -/

/-- The most often that an interval may ask for. -/
def repeatLimit : Nat := 32767

/-- What an interval has in the place of a number. -/
inductive IntervalPart where
  | missing
  | malformed
  | number (n : Nat)
deriving DecidableEq

/-- Reads what stands before a comma or the closing brace. -/
def intervalPart (close : List Char) : List Char → IntervalPart → IntervalPart × List Char
  | [], _ => (.malformed, [])
  | c :: cs, part =>
    if c = ',' ∨ close.isPrefixOf (c :: cs) then (part, c :: cs)
    else
      let next : IntervalPart :=
        if c.isDigit then
          match part with
          | .missing => .number (c.toNat - 48)
          | .number n => .number (min (n * 10 + (c.toNat - 48)) (repeatLimit + 1))
          | .malformed => .malformed
        else .malformed
      intervalPart close cs next

/-- What comes of an interval: how often something is repeated and what follows it. -/
inductive IntervalOutcome where
  | bounds (least : Nat) (most : Option Nat) (rest : List Char)
  /-- There are no two numbers; some dialects then take the brace for itself. -/
  | unread (fault : RegexFault)
  | refused (fault : RegexFault)

/-- Reads an interval from behind its opening brace. -/
def interval (d : RegexDialect) (cs : List Char) : IntervalOutcome :=
  let close := if d.extended then ['\x7d'] else ['\\', '\x7d']
  let (first, rest) := intervalPart close cs .missing
  let atComma := rest.head? == some ','
  if first = .missing ∧ ¬ atComma then .refused .badInterval
  else
    let (second, rest) :=
      if first = .malformed then (IntervalPart.malformed, rest)
      else if atComma then intervalPart close rest.tail .missing
      else (first, rest)
    let ends := close.isPrefixOf rest
    let finish (least : Nat) (most : Option Nat) : IntervalOutcome :=
      if ¬ ends ∨ (most.filter (· < least)).isSome then .refused .badInterval
      else if repeatLimit < max least (most.getD 0) then .refused .tooLarge
      else .bounds least most (rest.drop close.length)
    match first, second with
    | .malformed, _ | _, .malformed =>
      .unread (if rest.isEmpty then .openInterval else .badInterval)
    | .number n, .number m => finish n (some m)
    | .number n, .missing => finish n none
    | .missing, .number m => finish 0 (some m)
    | .missing, .missing => finish 0 none

/-! ## 5. Expressions -/

/-- What is left of an expression that is read. -/
structure RegexReader where
  rest : List Char
  /-- How many groups were opened. -/
  opened : Nat
  /-- How many groups are open. -/
  depth : Nat
  /-- The groups that were closed. -/
  closed : List Nat

/-- Reading a part of an expression. -/
abbrev RegexParse := StateT RegexReader (Except RegexFault)

/-- The characters that letters behind a backslash stand for. -/
def wordMembers : List Member := [.kind .alnum, .range '_' '_']

/-- What a character behind a backslash stands for. -/
def escapedRegex (c : Char) : Regex :=
  match c with
  | 'w' => .oneOf false wordMembers
  | 'W' => .oneOf true wordMembers
  | 's' => .oneOf false [.kind .space]
  | 'S' => .oneOf true [.kind .space]
  | 'b' => .wordEdge true
  | 'B' => .wordEdge false
  | '<' => .wordStart
  | '>' => .wordEnd
  | '\x60' => .textStart
  | '\'' => .textEnd
  | _ => .one c

/-- Whether the expression is a place, which cannot be repeated. -/
def Regex.isPlace : Regex → Bool
  | lineStart | lineEnd | textStart | textEnd | wordStart | wordEnd | wordEdge _ => true
  | _ => false

/-- Whether a dollar sign before these characters is the end of a line. -/
def endsBranch (d : RegexDialect) (cs : List Char) : Bool :=
  d.extended || cs.isEmpty || ['\\', ')'].isPrefixOf cs || ['\\', '|'].isPrefixOf cs

/-- Reads the repetitions behind an expression; `again` says that there was one already. -/
def repetitions (d : RegexDialect) : (fuel : Nat) → (again : Bool) → Regex → RegexParse Regex
  | 0, _, r => pure r
  | fuel + 1, again, r => do
    let s ← get
    let isRefused := again && d.strict && !d.extended
    match ← nextSign d s.rest with
    | some (.star, rest) =>
      if isRefused then throw .nothingToRepeat
      set { s with rest }
      repetitions d fuel true (.repeated 0 none r)
    | some (.plus, rest) =>
      set { s with rest }
      repetitions d fuel true (.repeated 1 none r)
    | some (.maybe, rest) =>
      set { s with rest }
      repetitions d fuel true (.repeated 0 (some 1) r)
    | some (.interval, rest) =>
      if isRefused then throw .nothingToRepeat
      match interval d rest with
      | .bounds least most rest =>
        set { s with rest }
        repetitions d fuel true (.repeated least most r)
      | .unread e => if d.extended ∧ ¬ d.strict then return r else throw e
      | .refused e => throw e
    | _ => return r

mutual

/-- Reads branches up to the end of a group. -/
def branches (d : RegexDialect) : (fuel : Nat) → RegexParse Regex
  | 0 => pure .empty
  | fuel + 1 => do
    let first ← branch d fuel true .empty
    let s ← get
    match ← nextSign d s.rest with
    | some (.bar, rest) =>
      set { s with rest }
      return .either first (← branches d fuel)
    | _ => return first

/-- Reads one branch; `done` was read before, and `atStart` says that nothing was. -/
def branch (d : RegexDialect) : (fuel : Nat) → (atStart : Bool) → (done : Regex) →
    RegexParse Regex
  | 0, _, done => pure done
  | fuel + 1, atStart, done => do
    let s ← get
    let take (r : Regex) (rest : List Char) : RegexParse Regex := do
      set { s with rest }
      if r.isPlace then branch d fuel false (.sequence done r)
      else
        let r ← repetitions d (rest.length + 1) false r
        branch d fuel false (.sequence done r)
    let misplaced (c : Char) (rest : List Char) : RegexParse Regex := do
      if d.extended then
        if d.strict then throw .nothingToRepeat
        else
          set { s with rest }
          branch d fuel atStart done
      else take (.one c) rest
    match ← nextSign d s.rest with
    | none => return done
    | some (.bar, _) => return done
    | some (.closeGroup, rest) =>
      if d.extended ∧ ¬ d.strict ∧ s.depth = 0 then take (.one ')') rest else return done
    | some (.openGroup, rest) =>
      let n := s.opened + 1
      set { s with rest, opened := n, depth := s.depth + 1 }
      let inner ← branches d fuel
      let s ← get
      match ← nextSign d s.rest with
      | some (.closeGroup, rest) =>
        set { s with rest, closed := n :: s.closed, depth := s.depth - 1 }
        let r ← repetitions d (rest.length + 1) false (.group n inner)
        branch d fuel false (.sequence done r)
      | _ => throw .openGroup
    | some (.star, rest) =>
      misplaced '*' rest
    | some (.plus, rest) => if d.extended then misplaced '+' rest else take (.one '+') rest
    | some (.maybe, rest) => if d.extended then misplaced '?' rest else take (.one '?') rest
    | some (.interval, rest) =>
      if d.strict then throw .nothingToRepeat
      else if ¬ d.extended then take (.one '\x7b') rest
      else
        match interval d rest with
        | .bounds _ _ rest =>
          set { s with rest }
          branch d fuel atStart done
        | .unread _ => take (.one '\x7b') rest
        | .refused e => throw e
    | some (.caret, rest) =>
      if d.extended ∨ atStart then take .lineStart rest else take (.one '^') rest
    | some (.dollar, rest) =>
      if endsBranch d rest then take .lineEnd rest else take (.one '$') rest
    | some (.dot, rest) => take .any rest
    | some (.bracket, rest) =>
      let (r, rest) ← bracketRegex rest
      take r rest
    | some (.escaped c, rest) =>
      if '1' ≤ c ∧ c ≤ '9' then
        let n := c.toNat - 48
        if s.closed.contains n then take (.again n) rest else throw .badReference
      else take (escapedRegex c) rest
    | some (.plain c, rest) => take (.one c) rest

end

/-- Reads a regular expression; gives how many groups it has, too. -/
def Regex.ofText (d : RegexDialect) (cs : List Char) : Except RegexFault (Regex × Nat) := do
  let (r, s) ← (branches d (2 * cs.length + 3)).run ⟨cs, 0, 0, []⟩
  match ← nextSign d s.rest with
  | some (.closeGroup, _) => throw .closedGroup
  | _ => return (r, s.opened)

end TidyTree
