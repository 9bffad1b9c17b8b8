/-
TidyTree.Tool.Pieces — tools that cut files into pieces and copy parts
of them.
-/
import TidyTree.Tool.Files

namespace TidyTree.Tool

open Shell

/-- Writes a text to a file, from the beginning or as `o` says. -/
def storeText (o : Opens) (path text : String) : Act (Except Errno Unit) := do
  match ← openFile path o with
  | .error e => return .error e
  | .ok n =>
    match (← get).world.write n text with
    | .ok world =>
      modify fun m => { m with world }
      return .ok ()
    | .error e => return .error e

/-! ## 1. Splitting -/

/-- How the names of pieces end. -/
structure PieceEndings where
  letters : List Char
  length : Nat
  /-- Whether endings get longer once the short ones are used up. -/
  grows : Bool
  extra : String

/-- The ending of a piece; none once there are no more. -/
def PieceEndings.ending? (e : PieceEndings) (n : Nat) : Option String :=
  let base := e.letters.length
  let digitsIn (width n : Nat) : String :=
    String.ofList ((List.range width).map fun i =>
      (e.letters[n / Nat.pow base (width - 1 - i) % base]?).getD 'a')
  let rec search (last : Char) : (fuel : Nat) → (width n : Nat) → (front : String) → Option String
    | 0, _, _, _ => none
    | fuel + 1, width, n, front =>
      let room :=
        if e.grows then Nat.pow base width - Nat.pow base (width - 1) else Nat.pow base width
      if n < room then some (front ++ digitsIn width n ++ e.extra)
      else if e.grows then search last fuel (width + 1) (n - room) (front ++ last.toString)
      else none
  search (e.letters.getLastD 'z') 10 e.length n ""

/-- Parts of a text with so many characters each. -/
def equalParts (size : Nat) : (fuel : Nat) → List Char → List String
  | 0, _ => []
  | fuel + 1, cs =>
    if cs.isEmpty then [] else String.ofList (cs.take size) :: equalParts size fuel (cs.drop size)

/-- Groups of so many texts each, put together. -/
def joinedRuns (size : Nat) : (fuel : Nat) → List String → List String
  | 0, _ => []
  | fuel + 1, ls =>
    if ls.isEmpty then [] else String.join (ls.take size) :: joinedRuns size fuel (ls.drop size)

/-- Lines put together as long as they have no more than so many characters; a longer line is
cut. -/
def lineRuns (size : Nat) : List String → (done : String) → List String
  | [], done => if done = "" then [] else [done]
  | l :: ls, done =>
    if done.length + l.length ≤ size then lineRuns size ls (done ++ l)
    else
      let before := if done = "" then [] else [done]
      if l.length ≤ size then before ++ lineRuns size ls l
      else
        let parts := equalParts size (l.length + 1) l.toList
        before ++ parts.dropLast ++ lineRuns size ls (parts.getLastD "")

/-- So many parts of a text of nearly the same size; the last one gets what is left. -/
def shares (count : Nat) (text : String) : List String :=
  let cs := text.toList
  let size := cs.length / count
  let rec go : Nat → List Char → List String
    | 0, _ => []
    | 1, cs => [String.ofList cs]
    | n + 1, cs => String.ofList (cs.take size) :: go n (cs.drop size)
  go count cs

/-- Splits a file into pieces. -/
def split (args : List String) : Act Nat := do
  let table := (((OptionTable.letters "dexu0123456789" "abClnt").withFlags [("verbose", "verbose"),
    ("elide-empty-files", "e"), ("unbuffered", "u")]).withValues [("suffix-length", "a"),
    ("additional-suffix", "additional-suffix"), ("bytes", "b"), ("line-bytes", "C"),
    ("lines", "l"), ("number", "n"), ("separator", "t"), ("filter", "filter")]).withLoose
    [("numeric-suffixes", "d"), ("hex-suffixes", "x")]
  let g ← given table 1 args
  let old := String.join ((g.options.map (·.1)).filter fun k => k.toList.all Char.isDigit)
  let g := if old = "" then g else { g with options := g.options ++ [("l", old)] }
  let separator ← match g.value? "t" with
    | none => pure '\n'
    | some "\\0" => pure '\x00'
    | some t =>
      match t.toList with
      | [c] => pure c
      | [] => refuse 1 "empty record separator"
      | _ => refuse 1 ("multi-character separator " ++ quoted t)
  let rows (text : String) : List String :=
    let parts := text.splitOn separator.toString
    (parts.dropLast.map (· ++ separator.toString)) ++ (parts.getLast?.toList.filter (· ≠ ""))
  let ways := (["b", "C", "l", "n"].filter g.has)
  if 1 < ways.length ∨ 1 < (g.options.filter fun o => ["b", "C", "l", "n"].contains o.1).length then
    refuseUse 1 "cannot split in more than one way"
  let way := ways.headD "l"
  let what := match way with
    | "l" => "lines"
    | "n" => "chunks"
    | _ => "bytes"
  let size ← match g.value? way with
    | none => pure 1000
    | some v =>
      match amount? v with
      | some n =>
        if n = 0 then refuse 1 ("invalid number of " ++ what ++ ": " ++ quoted v) else pure n
      | none => refuse 1 ("invalid number of " ++ what ++ ": " ++ quoted v)
  let length ← match g.value? "a" with
    | none => pure none
    | some v =>
      match digitsOnly? v with
      | some n => pure (if n = 0 then none else some n)
      | none => refuse 1 ("invalid suffix length: " ++ quoted v)
  let (operand, front) ← match g.operands with
    | [] => pure ("-", "x")
    | [a] => pure (a, "x")
    | [a, b] => pure (a, b)
    | _ :: _ :: extra :: _ => refuseUse 1 ("extra operand " ++ quoted extra)
  let letters := match g.last? ["d", "x"] with
    | some "d" => "0123456789"
    | some _ => "0123456789abcdef"
    | none => "abcdefghijklmnopqrstuvwxyz"
  let endings : PieceEndings := ⟨letters.toList, length.getD 2, length.isNone,
    (g.value? "additional-suffix").getD ""⟩
  match ← inputText operand with
  | .error e =>
    if e = .isDirectory then refuse 1 (operand ++ ": " ++ e.text)
    else refuse 1 ("cannot open " ++ quoted operand ++ " for reading: " ++ e.text)
  | .ok text =>
    let parts := match way with
      | "b" => equalParts size (text.length + 1) text.toList
      | "C" => lineRuns size (rows text) ""
      | "n" => (shares size text).filter fun p => !(g.has "e" && p = "")
      | _ => joinedRuns size (text.length + 1) (rows text)
    let store (entry : Nat × String) : Act Unit := do
      match endings.ending? entry.1 with
      | none => refuse 1 "output file suffixes exhausted"
      | some ending =>
        let path := front ++ ending
        if g.has "verbose" then print ("creating file " ++ quoted path ++ "\n")
        match ← storeText .write path entry.2 with
        | .ok _ => pure ()
        | .error e => refuse 1 (path ++ ": " ++ e.text)
    ((List.range parts.length).zip parts).forM store
    return 0
where
  digitsOnly? (s : String) : Option Nat := if s.toList.all Char.isDigit then s.toNat? else none

/-! ## 2. Copying parts -/

/-- The settings that may be given, as names with values. -/
def copyNames : List String :=
  ["if", "of", "bs", "ibs", "obs", "cbs", "count", "skip", "iseek", "seek", "oseek", "conv",
    "status", "iflag", "oflag"]

/-- The ways in which what is copied may be changed. -/
def conversions : List String :=
  ["ascii", "block", "ebcdic", "excl", "fdatasync", "fsync", "ibm", "lcase", "nocreat", "noerror",
    "notrunc", "sparse", "swab", "sync", "ucase", "unblock"]

/-- A row of bytes with neighbours changed for each other. -/
def swapped : List Char → List Char
  | a :: b :: cs => b :: a :: swapped cs
  | cs => cs

/-- Copies a part of a file to a part of another one. -/
def dd (args : List String) : Act Nat := do
  let g ← given (.letters "" "") 1 args
  let settings ← g.operands.mapM fun a => do
    let name := String.ofList (a.toList.takeWhile (· ≠ '='))
    if ¬ a.toList.contains '=' ∨ ¬ copyNames.contains name then
      refuseUse 1 ("unrecognized operand " ++ quoted a)
    return (name, String.ofList (a.toList.drop (name.length + 1)))
  let value? (name : String) : Option String :=
    ((settings.filter fun s => s.1 = name).map (·.2)).getLast?
  let number (least : Nat) (names : List String) : Act (Option Nat) := do
    match ((settings.filter fun s => names.contains s.1).map (·.2)).getLast? with
    | none => return none
    | some v =>
      let factors := (v.splitOn "x").map fun f => amount? (if f.toList.getLast? = some 'B' ∧
        (f.toList.dropLast).all Char.isDigit then String.ofList f.toList.dropLast
        else if f.toList.getLast? = some 'c' then String.ofList f.toList.dropLast else f)
      if factors.any Option.isNone then refuse 1 ("invalid number: " ++ quoted v)
      let n := factors.foldl (fun n f => n * f.getD 1) 1
      if n < least then refuse 1 ("invalid number: " ++ quoted v)
      return some n
  let both ← number 1 ["bs"]
  let readSize := both.getD ((← number 1 ["ibs"]).getD 512)
  let writeSize := both.getD ((← number 1 ["obs"]).getD 512)
  let count ← number 0 ["count"]
  let skip := (← number 0 ["skip", "iseek"]).getD 0
  let seek := (← number 0 ["seek", "oseek"]).getD 0
  let changes := ((settings.filter fun s => s.1 = "conv").map fun s => s.2.splitOn ",").flatten
  match changes.find? fun c => !conversions.contains c with
  | some c => refuseUse 1 ("invalid conversion: " ++ quoted c)
  | none => pure ()
  let status := (value? "status").getD ""
  if status ≠ "" ∧ ¬ ["none", "noxfer", "progress"].contains status then
    refuseUse 1 ("invalid status level: " ++ quoted status)
  let input ← match value? "if" with
    | none => pure none
    | some path =>
      match ← openFile path .read with
      | .ok n => pure (some n)
      | .error e => refuse 1 ("failed to open " ++ quoted path ++ ": " ++ e.text)
  let keepsRest := changes.contains "notrunc" || seek ≠ 0
  let output ← match value? "of" with
    | none => pure ((← get).opening? 1)
    | some path =>
      let o : Opens := { Opens.write with
        truncates := !keepsRest
        appends := ((value? "oflag").getD "").splitOn "," |>.contains "append"
        creates := !changes.contains "nocreat" }
      match ← openFile path o with
      | .ok n => pure (some n)
      | .error e => refuse 1 ("failed to open " ++ quoted path ++ ": " ++ e.text)
  let read ← match input with
    | some n => openedText n
    | none => readRest 0
  let (text, status?) ← match read with
    | .ok t => pure (t.toList, 0)
    | .error e =>
      complain ("error reading " ++ quoted ((value? "if").getD "standard input") ++ ": " ++ e.text)
      pure ([], 1)
  let text := text.drop (skip * readSize)
  let text := match count with
    | some n => text.take (n * readSize)
    | none => text
  let full := text.length / readSize
  let part := if text.length % readSize = 0 then 0 else 1
  let text := if changes.contains "sync" ∧ part = 1 then
      text ++ List.replicate ((full + 1) * readSize - text.length) '\x00' else text
  let text := if changes.contains "swab" then swapped text else text
  let text := if changes.contains "ucase" then text.map Char.toUpper
    else if changes.contains "lcase" then text.map Char.toLower else text
  match output with
  | none => refuse 1 "standard output: Bad file descriptor"
  | some n =>
    if value? "of" ≠ none then
      modify fun m =>
        { m with world := m.world.update n fun o => { o with place := seek * writeSize } }
    match (← get).world.write n (String.ofList text) with
    | .ok world => modify fun m => { m with world }
    | .error e =>
      refuse 1 ("error writing " ++ quoted ((value? "of").getD "standard output") ++ ": " ++
        e.text)
  let outFull := text.length / writeSize
  let outPart := if text.length % writeSize = 0 then 0 else 1
  if status ≠ "none" then
    say (toString full ++ "+" ++ toString part ++ " records in\n" ++ toString outFull ++ "+" ++
      toString outPart ++ " records out\n")
    if status ≠ "noxfer" then
      say (toString text.length ++ (if text.length = 1 then " byte" else " bytes") ++
        " copied, 0.0001 s, 0.0 kB/s\n")
  return status?

end TidyTree.Tool
