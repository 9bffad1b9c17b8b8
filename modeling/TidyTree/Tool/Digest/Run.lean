/-
TidyTree.Tool.Digest.Run — tools that sum files up, and that write bytes
as letters.
-/
import TidyTree.Tool.Digest.Sums
import TidyTree.Tool.Files

namespace TidyTree.Tool.Digest

open Shell

/-! ## 1. Sums of files -/

/-- The bytes that an operand holds. -/
def inputBytes (operand : String) : Act (Except Errno ByteArray) :=
  return (← inputText operand).map Text.toBytes

/-- A name as it stands behind a sum, and whether it had to be changed. -/
def escapedName (name : String) : Bool × String :=
  let cs := name.toList
  if cs.contains '\\' ∨ cs.contains '\n' then
    (true, String.ofList (cs.flatMap fun c =>
      if c = '\\' then ['\\', '\\'] else if c = '\n' then ['\\', 'n'] else [c]))
  else (false, name)

/-- A name as it was before it was changed. -/
def unescapedName : List Char → List Char
  | '\\' :: 'n' :: cs => '\n' :: unescapedName cs
  | '\\' :: '\\' :: cs => '\\' :: unescapedName cs
  | c :: cs => c :: unescapedName cs
  | [] => []

/-- The sum and the name that a line holds. -/
def sumLine? (k : Kind) (title line : String) : Option (String × String) :=
  let isSum (cs : List Char) : Bool :=
    cs.length = k.digits && cs.all fun c => c.isDigit || ('a' ≤ c.toLower && c.toLower ≤ 'f')
  let cs := line.toList
  let tag := (title ++ " (").toList
  if tag.isPrefixOf cs then
    let rest := cs.drop tag.length
    let sum := (rest.reverse.take k.digits).reverse
    let name := rest.take (rest.length - k.digits)
    let ending := ") = ".toList
    if isSum sum ∧ ending.isSuffixOf name then
      some (String.ofList sum, String.ofList (name.take (name.length - ending.length)))
    else none
  else
    let (escaped, cs) := match cs with
      | '\\' :: rest => (true, rest)
      | _ => (false, cs)
    let sum := cs.take k.digits
    match cs.drop k.digits with
    | ' ' :: mark :: name =>
      if isSum sum ∧ (mark = ' ' ∨ mark = '*') ∧ ¬ name.isEmpty then
        some (String.ofList sum, String.ofList (if escaped then unescapedName name else name))
      else none
    | _ => none

/-- How sums are checked. -/
structure Checking where
  silent : Bool
  quiet : Bool
  strict : Bool
  warns : Bool
  ignoresMissing : Bool

/-- A number of things that went wrong, in words. -/
def countedFault (n : Nat) (one many : String) : Act Unit := do
  if n = 1 then complain ("WARNING: 1 " ++ one)
  else if n ≠ 0 then complain ("WARNING: " ++ toString n ++ " " ++ many)

/-- Checks the sums that a file lists. -/
def checkList (k : Kind) (title : String) (c : Checking) (operand : String) : Act Bool := do
  let shownName := if operand = "-" then "'standard input'" else operand
  match ← inputText operand with
  | .error e =>
    complain (operand ++ ": " ++ e.text)
    return false
  | .ok text =>
    let rows := (lines text).map fun l => sumLine? k title l
    let check (row : Option (String × String)) : Act (Nat × Nat × Nat) := do
      match row with
      | none => return (0, 0, 0)
      | some (sum, name) =>
        match ← inputBytes name with
        | .error e =>
          if c.ignoresMissing ∧ e = .noEntry then return (0, 0, 0)
          complain (name ++ ": " ++ e.text)
          if ¬ c.silent then print (name ++ ": FAILED open or read\n")
          return (0, 1, 0)
        | .ok b =>
          let same : Bool := k.text b = sum.map Char.toLower
          if ¬ c.silent ∧ ¬ same then print (name ++ ": FAILED\n")
          if ¬ c.silent ∧ same ∧ ¬ c.quiet then print (name ++ ": OK\n")
          return (if same then 1 else 0, 0, if same then 0 else 1)
    let results ← rows.mapM check
    let total (f : Nat × Nat × Nat → Nat) : Nat := results.foldl (fun n r => n + f r) 0
    let bad := (rows.filter Option.isNone).length
    let (good, unread, wrong) := (total (·.1), total (·.2.1), total (·.2.2))
    if rows.all Option.isNone then
      complain (shownName ++ ": no properly formatted " ++ title ++ " checksum lines found")
      return false
    if ¬ c.silent then
      countedFault bad "line is improperly formatted" "lines are improperly formatted"
      countedFault unread "listed file could not be read" "listed files could not be read"
      countedFault wrong "computed checksum did NOT match" "computed checksums did NOT match"
      if c.ignoresMissing ∧ good + wrong = 0 then complain (shownName ++ ": no file was verified")
    return unread = 0 && wrong = 0 && !(c.strict && bad ≠ 0) && !(c.ignoresMissing && good = 0)

/-- Refuses options that make sense only while sums are checked. -/
def requireChecking (g : Given) : Act Unit :=
  [("ignore-missing", "ignore-missing"), ("status", "status"), ("w", "warn"), ("quiet", "quiet"),
    ("strict", "strict")].forM fun (key, name) => do
    if g.has key then
      refuseUse 1 ("the --" ++ name ++ " option is meaningful only when verifying checksums")

/-- Prints or checks sums in one of the ways. -/
def sums (k : Kind) (title : String) (args : List String) : Act Nat := do
  let g ← given ((OptionTable.letters "bctwz" "").withFlags [("binary", "b"), ("check", "c"),
    ("text", "t"), ("warn", "w"), ("zero", "z"), ("quiet", "quiet"), ("status", "status"),
    ("strict", "strict"), ("ignore-missing", "ignore-missing"), ("tag", "tag")]) 1 args
  let operands := if g.operands.isEmpty then ["-"] else g.operands
  let c : Checking := ⟨g.has "status", g.has "quiet", g.has "strict", g.has "w",
    g.has "ignore-missing"⟩
  if g.has "c" then
    if g.has "tag" then refuseUse 1 "the --tag option is meaningless when verifying checksums"
    eachOperand operands (checkList k title c)
  else
    requireChecking g
    let ending := if g.has "z" then "\x00" else "\n"
    eachOperand operands fun p => do
      match ← inputBytes p with
      | .error e =>
        complain (p ++ ": " ++ e.text)
        return false
      | .ok b =>
        let (escaped, name) := if g.has "z" then (false, p) else escapedName p
        let front := if escaped then "\\" else ""
        if g.has "tag" then print (front ++ title ++ " (" ++ name ++ ") = " ++ k.text b ++ ending)
        else
          let mark := if g.has "b" ∧ g.last? ["b", "t"] = some "b" then " *" else "  "
          print (front ++ k.text b ++ mark ++ name ++ ending)
        return true

/-- Prints short sums and sizes in blocks. -/
def blockSum (args : List String) : Act Nat := do
  let g ← given ((OptionTable.letters "rs" "").withFlags [("sysv", "s")]) 1 args
  let operands := if g.operands.isEmpty then ["-"] else g.operands
  let folded : Bool := g.last? ["r", "s"] = some "s"
  eachOperand operands fun p => do
    match ← inputBytes p with
    | .error e =>
      complain (p ++ ": " ++ e.text)
      return false
    | .ok b =>
      let name := if g.operands.isEmpty then "" else " " ++ p
      let padded (width : Nat) (filler : Char) (n : Nat) : String :=
        Spec.repeated (width - (toString n).length) filler ++ toString n
      if folded then
        print (toString (foldedSum b) ++ " " ++ toString ((b.size + 511) / 512) ++ name ++ "\n")
      else
        print (padded 5 '0' (turnedSum b) ++ " " ++ padded 5 ' ' ((b.size + 1023) / 1024) ++
          name ++ "\n")
      return true

/-- Prints remainders and sizes. -/
def cksum (args : List String) : Act Nat := do
  let g ← given (((OptionTable.letters "bcwz" "al").withFlags [("check", "c"),
    ("untagged", "untagged"), ("tag", "tag"), ("warn", "w"), ("zero", "z")]).withValues
    [("algorithm", "a"), ("length", "l")]) 1 args
  match g.value? "a" with
  | some "md5" => sums .shortest "MD5" ((if g.has "c" then ["-c"] else ["--tag"]) ++ g.operands)
  | some "sha1" => sums .middle "SHA1" ((if g.has "c" then ["-c"] else ["--tag"]) ++ g.operands)
  | some "sha256" =>
    sums .longest "SHA256" ((if g.has "c" then ["-c"] else ["--tag"]) ++ g.operands)
  | some "bsd" => blockSum ("-r" :: g.operands)
  | some "sysv" => blockSum ("-s" :: g.operands)
  | a =>
    if a.isSome ∧ a ≠ some "crc" then
      refuseUse 1 ("invalid argument " ++ quoted (a.getD "") ++ " for '--algorithm'")
    if g.has "l" then refuse 1 "--length is only supported with --algorithm=blake2b"
    if ¬ g.has "c" then requireChecking g
    let operands := if g.operands.isEmpty then ["-"] else g.operands
    eachOperand operands fun p => do
      match ← inputBytes p with
      | .error e =>
        complain (p ++ ": " ++ e.text)
        return false
      | .ok b =>
        if g.has "c" then
          complain (p ++ ": no properly formatted checksum lines found")
          return false
        let name := if g.operands.isEmpty then "" else " " ++ p
        print (toString (remainderOf b) ++ " " ++ toString b.size ++ name ++ "\n")
        return true

/-! ## 2. Bytes as letters -/

/-- The letters for numbers of six bits. -/
def sixBitLetters : List Char :=
  "ABCDEFGHIJKLMNOPQRSTUVWXYZabcdefghijklmnopqrstuvwxyz0123456789+/".toList

/-- Writes bytes in letters, three bytes in four of them. -/
def lettersOf : List Char → List Char
  | [] => []
  | [a] =>
    let n := a.toNat * 65536
    (four n).take 2 ++ ['=', '=']
  | [a, b] =>
    let n := a.toNat * 65536 + b.toNat * 256
    (four n).take 3 ++ ['=']
  | a :: b :: c :: rest => four (a.toNat * 65536 + b.toNat * 256 + c.toNat) ++ lettersOf rest
where
  four (n : Nat) : List Char :=
    [n / 262144, n / 4096 % 64, n / 64 % 64, n % 64].map fun i => (sixBitLetters[i]?).getD 'A'

/-- The bytes that letters write, as far as they are right, and whether all are. -/
def bytesOf : (fuel : Nat) → List Char → List Char × Bool
  | 0, _ => ([], true)
  | fuel + 1, cs =>
    let value (c : Char) : Option Nat := sixBitLetters.findIdx? (· = c)
    match cs with
    | [] => ([], true)
    | [a, b, '=', '='] =>
      match value a, value b with
      | some x, some y => ([Char.ofNat (x * 4 + y / 16)], true)
      | _, _ => ([], false)
    | [a, b, c, '='] =>
      match value a, value b, value c with
      | some x, some y, some z =>
        ([Char.ofNat (x * 4 + y / 16), Char.ofNat (y % 16 * 16 + z / 4)], true)
      | _, _, _ => ([], false)
    | a :: b :: c :: d :: rest =>
      match value a, value b, value c, value d with
      | some x, some y, some z, some w =>
        let (more, good) := bytesOf fuel rest
        (Char.ofNat (x * 4 + y / 16) :: Char.ofNat (y % 16 * 16 + z / 4) ::
          Char.ofNat (z % 4 * 64 + w) :: more, good)
      | some x, some y, some z, none =>
        ([Char.ofNat (x * 4 + y / 16), Char.ofNat (y % 16 * 16 + z / 4)], false)
      | some x, some y, none, _ => ([Char.ofNat (x * 4 + y / 16)], false)
      | _, _, _, _ => ([], false)
    | [a, b, c] =>
      match value a, value b, value c with
      | some x, some y, some z =>
        ([Char.ofNat (x * 4 + y / 16), Char.ofNat (y % 16 * 16 + z / 4)], false)
      | some x, some y, none => ([Char.ofNat (x * 4 + y / 16)], false)
      | _, _, _ => ([], false)
    | [a, b] =>
      match value a, value b with
      | some x, some y => ([Char.ofNat (x * 4 + y / 16)], false)
      | _, _ => ([], false)
    | [_] => ([], false)

/-- Lines of at most so many characters. -/
def wrapped (width : Nat) : (fuel : Nat) → List Char → String
  | 0, _ => ""
  | fuel + 1, cs =>
    if cs.isEmpty then ""
    else String.ofList (cs.take width) ++ "\n" ++ wrapped width fuel (cs.drop width)

/-- Writes bytes in letters, or reads them back. -/
def base64 (args : List String) : Act Nat := do
  let g ← given (((OptionTable.letters "di" "w").withFlags [("decode", "d"),
    ("ignore-garbage", "i")]).withValues [("wrap", "w")]) 1 args
  let width ← match g.value? "w" with
    | none => pure 76
    | some v =>
      match amount? v with
      | some n => pure n
      | none => refuse 1 ("invalid wrap size: " ++ quoted v)
  match g.operands with
  | _ :: extra :: _ => refuseUse 1 ("extra operand " ++ quoted extra)
  | ops =>
    let operand := ops.headD "-"
    match ← inputText operand with
    | .error e => refuse 1 (operand ++ ": " ++ e.text)
    | .ok text =>
      if g.has "d" then
        let cs := text.toList.filter fun c =>
          if g.has "i" then sixBitLetters.contains c || c = '=' else c ≠ '\n'
        let (bytes, good) := bytesOf (cs.length + 1) cs
        let status ← printAll (String.ofList bytes)
        if good then return status else refuse 1 "invalid input"
      else
        let letters := lettersOf text.toList
        printAll (if width = 0 then String.ofList letters
          else wrapped width (letters.length + 1) letters)

end TidyTree.Tool.Digest
