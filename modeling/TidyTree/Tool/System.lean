/-
TidyTree.Tool.System — tools that tell about the system and its users,
and that send signals.
-/
import TidyTree.Tool.Words

namespace TidyTree.Tool

open Shell

/-! ## 1. Users -/

/-- The names of the users of the system. -/
def userNames : List String :=
  ["root", "daemon", "bin", "sys", "sync", "games", "man", "lp", "mail", "news", "uucp", "proxy",
    "www-data", "backup", "list", "irc", "_apt", "nobody"]

/-- The names of the groups of the system. -/
def groupNames : List String :=
  ["root", "daemon", "bin", "sys", "adm", "tty", "disk", "lp", "mail", "news", "uucp", "man",
    "proxy", "kmem", "dialout", "fax", "voice", "cdrom", "floppy", "tape", "sudo", "audio", "dip",
    "www-data", "backup", "operator", "list", "irc", "src", "shadow", "utmp", "video", "sasl",
    "plugdev", "staff", "games", "users", "nogroup"]

/-- Whether a name or number stands for one of some users or groups. -/
def isKnown (names : List String) (s : String) : Bool :=
  names.contains s || (s ≠ "" && s.toList.all Char.isDigit)

/-- Prints who one is. -/
def identify (args : List String) : Act Nat := do
  let g ← given ((OptionTable.letters "aZgGnruz" "").withFlags [("user", "u"), ("group", "g"),
    ("groups", "G"), ("name", "n"), ("real", "r"), ("zero", "z")]) 1 args
  if 1 < (["u", "g", "G"].filter g.has).length then
    refuse 1 "cannot print \"only\" of more than one choice"
  if (g.has "n" ∨ g.has "r") ∧ ¬ (g.has "u" ∨ g.has "g" ∨ g.has "G") then
    refuse 1 "cannot print only names or real IDs in default format"
  let unknown := g.operands.filter fun u => !isKnown userNames u
  unknown.forM fun u => complain (quoted u ++ ": no such user")
  if ¬ unknown.isEmpty then return 1
  if g.has "n" then printAll "root\n"
  else if g.has "u" ∨ g.has "g" ∨ g.has "G" then printAll "0\n"
  else printAll "uid=0(root) gid=0(root) groups=0(root)\n"

/-- Refuses operands. -/
def refuseOperands (g : Given) : Act Unit := do
  match g.operands with
  | [] => pure ()
  | a :: _ => refuseUse 1 ("extra operand " ++ quoted a)

/-- Prints the name of the user. -/
def userName (args : List String) : Act Nat := do
  refuseOperands (← given (.letters "" "") 1 args)
  printAll "root\n"

/-- Prints the groups of users. -/
def userGroups (args : List String) : Act Nat := do
  let g ← given (.letters "" "") 1 args
  let status ← g.operands.foldlM (fun status u => do
    if isKnown userNames u then
      print (u ++ " : " ++ u ++ "\n")
      return status
    else
      complain (quoted u ++ ": no such user")
      return 1) 0
  if g.operands.isEmpty then printAll "root\n" else return status

/-- Prints the name under which one came in, which nobody did. -/
def loginName (args : List String) : Act Nat := do
  refuseOperands (← given (.letters "" "") 1 args)
  refuse 1 "no login name"

/-! ## 2. The system -/

/-- Prints what the system is. -/
def systemName (args : List String) : Act Nat := do
  let g ← given ((OptionTable.letters "asnrvmpio" "").withFlags [("all", "a"), ("kernel-name", "s"),
    ("nodename", "n"), ("kernel-release", "r"), ("kernel-version", "v"), ("machine", "m"),
    ("processor", "p"), ("hardware-platform", "i"), ("operating-system", "o")]) 1 args
  refuseOperands g
  let parts := [("s", "Linux"), ("n", "localhost"), ("m", "x86_64"), ("o", "GNU/Linux")]
  let chosen := parts.filter fun p => g.has p.1 || g.has "a"
  printAll (" ".intercalate (if chosen.isEmpty then ["Linux"] else chosen.map (·.2)) ++ "\n")

/-- Prints for what machines the system is made. -/
def machineName (args : List String) : Act Nat := do
  refuseOperands (← given (.letters "" "") 1 args)
  printAll "x86_64\n"

/-- Prints how many processors there are. -/
def processorCount (args : List String) : Act Nat := do
  let g ← given ((OptionTable.letters "" "").withFlags [("all", "all")] |>.withValues
    [("ignore", "ignore")]) 1 args
  refuseOperands g
  match g.value? "ignore" with
  | none => printAll "1\n"
  | some v =>
    if v.toNat?.isSome then printAll "1\n"
    else refuse 1 ("invalid number: " ++ quoted v ++ " to ignore")

/-- Prints the name of the host. -/
def hostName (args : List String) : Act Nat := do
  let g ← given (.letters "aAbdfhIisVy" "F") 255 args
  if g.has "V" ∨ g.has "h" ∨ g.has "b" ∨ g.has "y" then return 0
  if ¬ g.operands.isEmpty ∧ ¬ g.options.isEmpty then stop 255
  if ¬ g.operands.isEmpty ∨ g.has "F" then refuse 1 "you must be root to change the host name"
  if g.has "i" ∨ g.has "I" then printAll "127.0.0.1\n" else printAll "localhost\n"

/-- Tells of what terminal the input comes, which is none. -/
def terminalName (args : List String) : Act Nat := do
  let g ← given ((OptionTable.letters "s" "").withFlags [("silent", "s"), ("quiet", "s")]) 2 args
  match g.operands with
  | [] => pure ()
  | a :: _ => refuseUse 2 ("extra operand " ++ quoted a)
  if ¬ g.has "s" then print "not a tty\n"
  return 1

/-- Has all that was written kept, which it is. -/
def syncFiles (args : List String) : Act Nat := do
  let table := (OptionTable.letters "df" "").withFlags [("data", "d"), ("file-system", "f")]
  let g ← given table 1 args
  let missing ← g.operands.filterM fun p => do
    match ← resolve p with
    | .ok _ => return false
    | .error e =>
      complain ("error opening " ++ quoted p ++ ": " ++ e.text)
      return true
  return if missing.isEmpty then 0 else 1

/-! ## 3. Processes -/

/-- Prints variables that were passed on. -/
def printVariables (args : List String) : Act Nat := do
  let g ← given ({ OptionTable.letters "0" "" with stops := true }.withFlags [("null", "0")]) 2 args
  let m ← get
  let ending := if g.has "0" then "\x00" else "\n"
  if g.operands.isEmpty then
    printAll (String.join (m.inherited.map fun v => v.1 ++ "=" ++ v.2 ++ ending))
  else
    let found := g.operands.map m.value?
    found.forM fun
      | some v => print (v ++ ending)
      | none => pure ()
    return if found.all Option.isSome then 0 else 1

/-- Prints the working directory. -/
def workingPath (args : List String) : Act Nat := do
  let _ ← given (.letters "LP" "") 1 args
  let m ← get
  printAll (Text.narrow ("/" ++ "/".intercalate m.world.files.workingDirectory) ++ "\n")

/-- Sends signals. -/
def killProcesses (args : List String) : Act Nat := do
  let bare (s : String) : String :=
    let upper := s.map Char.toUpper
    if "SIG".toList.isPrefixOf upper.toList then String.ofList (upper.toList.drop 3) else upper
  match args with
  | "-l" :: s :: _ =>
    match signal? 0 (bare s) with
    | none =>
      complain ("unknown signal name " ++ s)
      stop 0
    | some n =>
      print ((if s.toList.all Char.isDigit then signalName n else toString n) ++ "\n")
      stop 0
  | ["-l"] =>
    print (" ".intercalate ((List.range 31).map fun i => signalName (i + 1)) ++ "\n")
    stop 0
  | _ => pure ()
  let (signal, targets) : Option Nat × List String := match args with
    | "-s" :: s :: rest => (signal? 0 (bare s), rest)
    | a :: rest =>
      match a.toList with
      | '-' :: c :: cs =>
        if a = "--" then (some 15, rest) else (signal? 0 (bare (String.ofList (c :: cs))), rest)
      | _ => (some 15, args)
    | [] => (some 15, [])
  match signal with
  | none => refuse 1 "invalid signal"
  | some n =>
    let missing ← targets.filterM fun t => do
      match t.toInt? with
      | some target =>
        if ← send n target then return false
        else complain ("(" ++ t ++ ") - No such process"); return true
      | none => complain ("failed to parse argument: " ++ quoted t); return true
    return if missing.isEmpty ∧ ¬ targets.isEmpty then 0 else 1

end TidyTree.Tool
