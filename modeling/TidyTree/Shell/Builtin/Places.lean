/-
TidyTree.Shell.Builtin.Places — the commands of the shell for where it
is and which rights new files get.

The shell remembers the path on which it came to the working directory,
so that going up leads back through a symbolic link.
-/
import TidyTree.Shell.Builtin.Variables
import TidyTree.Shell.Mode

namespace TidyTree.Shell

/-! ## 1. Directories -/

/-- The path of the working directory without symbolic links. -/
def Machine.physicalDirectory (m : Machine) : String :=
  Text.narrow ("/" ++ "/".intercalate m.world.files.workingDirectory)

/-- The path that leads from the directory `here` along `path`, without steps back. -/
def logicalPath (here path : String) : String :=
  let start := if path.toList.head? = some '/' then [] else Path.components here
  let step (done : List String) (c : String) : List String :=
    if c = "" ∨ c = "." then done else if c = ".." then done.dropLast else done ++ [c]
  let names := (Path.components path).foldl step (start.filter (· ≠ ""))
  "/" ++ "/".intercalate names

/-- Makes a directory the working directory if there is one at the path. -/
def enter (path : String) : Act Bool := do
  match ← resolve path with
  | .ok (.directory place _ _) =>
    modify fun m =>
      let files := { m.world.files with workingDirectory := place }
      { m with world := { m.world with files } }
    return true
  | _ => return false

/-- Remembers the working directory. -/
def rememberDirectory (path : String) : Act Unit := do
  let old := (← get).directory
  assignExported "OLDPWD" old
  modify fun m => { m with directory := path }
  assignExported "PWD" path

/-- Goes to a directory; the answer says whether that was possible. -/
def goTo (physical : Bool) (path : String) : Act Bool := do
  let m ← get
  let target := if physical then path else logicalPath m.directory path
  if ← enter target then
    let here ← get
    rememberDirectory (if physical then here.physicalDirectory else target)
    return true
  else return false

/-- Whether a path is looked for in the working directory only. -/
def isDirect (path : String) : Bool :=
  ["/", "./", "../"].any (fun front => front.toList.isPrefixOf path.toList) || path = "." ||
    path = ".."

/-- Changes the working directory. -/
def changeDirectory (args : List String) : Act Nat := do
  let (options, operands) ← optionLetters ['L', 'P'] args
  let physical := options.getLast? = some 'P'
  let m ← get
  let (target, printed) : String × Bool := match operands with
    | [] => (m.value "HOME", false)
    | "-" :: _ => (m.value "OLDPWD", true)
    | a :: _ => (a, false)
  let found : Option (String × Bool) ←
    if isDirect target then pure none
    else
      let path := if target = "" then "." else target
      let entries := match m.value? "CDPATH" with
        | some p => p.splitOn ":"
        | none => []
      let places := entries.map fun e => (if e = "" then path else e ++ "/" ++ path, e != "")
      places.findM? fun p => do
        match ← resolve p.1 with
        | .ok (.directory _ _ _) => return true
        | _ => return false
  let (path, announced) := found.getD (if target = "" then "." else target, false)
  if ← goTo physical path then
    if printed || announced then print ((← get).directory ++ "\n")
    return 0
  else fail ("can't cd to " ++ target)

/-- Prints the path of the working directory. -/
def printDirectory (args : List String) : Act Nat := do
  let (options, _) ← optionLetters ['L', 'P'] args
  let m ← get
  print ((if options.getLast? = some 'P' then m.physicalDirectory else m.directory) ++ "\n")
  return 0

/-! ## 2. The mask -/

/-- A number with at least so many octal digits. -/
def octalText (width n : Nat) : String :=
  let digits := String.ofList (Nat.toDigits 8 n)
  String.ofList (List.replicate (width - digits.length) '0') ++ digits

/-- The rights of a group in letters. -/
def rightsText (bits : Nat) : String :=
  (if bits &&& 4 = 0 then "" else "r") ++ (if bits &&& 2 = 0 then "" else "w") ++
    (if bits &&& 1 = 0 then "" else "x")

/-- Shows or sets the bits that new files do not get. -/
def maskCommand (args : List String) : Act Nat := do
  let (options, operands) ← optionLetters ['S'] args
  let m ← get
  match operands with
  | [] =>
    let given := 0o777 &&& otherModeBits m.mask
    print (if options.contains 'S' then
        "u=" ++ rightsText (given >>> 6) ++ ",g=" ++ rightsText ((given >>> 3) &&& 7) ++ ",o=" ++
          rightsText (given &&& 7) ++ "\n"
      else octalText 4 m.mask ++ "\n")
    return 0
  | a :: _ =>
    match a.toList with
    | c :: cs =>
      if c.isDigit then
        if (c :: cs).all isOctal then
          set { m with mask := octalNumber (c :: cs) &&& 0o777 }
          return 0
        else fail ("Illegal number: " ++ a)
      else
        match modeChanges? a with
        | some changes =>
          let given := applyChanges changes false 0 (0o777 &&& otherModeBits m.mask)
          set { m with mask := 0o777 &&& otherModeBits given }
          return 0
        | none => fail ("Illegal mode: " ++ a)
    | [] => fail ("Illegal mode: " ++ a)

end TidyTree.Shell
