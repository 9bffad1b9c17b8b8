/-
TidyTree.Tool.Files — tools that make, remove, move and show entries.

Trees are gone through by paths.  The fuel of a function that does so
bounds how deep the tree is; no path that the system accepts is deeper.
-/
import TidyTree.Shell.Builtin.Places
import TidyTree.Tool.System

namespace TidyTree.Tool

open Shell

/-! ## 1. Paths -/

/-- How deep trees can be. -/
def treeDepth : Nat := 4100

/-- The path of an entry in the directory at a path. -/
def inside (directory name : String) : String :=
  if directory.toList.getLast? = some '/' then directory ++ name else directory ++ "/" ++ name

/-- The names of the entries of the directory at a path, in order. -/
def entryNames (path : String) : Act (List String) := do
  match ← resolve path with
  | .ok (.directory _ none inside) => return (inside.names.map Text.narrow).mergeSort (· ≤ ·)
  | _ => return []

/-- Whether a path leads to a directory. -/
def isDirectory (path : String) : Act Bool := do
  match ← resolve path with
  | .ok (.directory _ _ _) => return true
  | _ => return false

/-- Whether anything stands at a path. -/
def stands (path : String) : Act Bool := do
  match ← entryAt path with
  | .ok _ => return true
  | .error _ => return false

/-- Whether the path is one of the two names that every directory has. -/
def isDots (path : String) : Bool :=
  let last := lastComponent path
  last = "." || last = ".."

/-- Says that a path cannot be used, and counts it as a failure. -/
def failed (text : String) (e : Errno) : Act Bool := do
  complain (text ++ ": " ++ e.text)
  return false

/-- Does something for each operand; the status is one if any failed. -/
def eachOperand (operands : List String) (a : String → Act Bool) : Act Nat := do
  let bad ← operands.filterM fun p => return !(← a p)
  return if bad.isEmpty then 0 else 1

/-- Asks a question and reads the line of the answer, which is yes if it begins with that letter. -/
def isConfirmed (question : String) : Act Bool := do
  say question
  let line := (← lookAhead 0).toList.takeWhile (· ≠ '\n')
  let rec pass : Nat → Act Unit
    | 0 => pure ()
    | n + 1 => do
      let _ ← readByte? 0
      pass n
  pass (line.length + 1)
  return line.head? = some 'y' || line.head? = some 'Y'

/-- Asks a question if there is a reason to, and is content otherwise. -/
def isAgreed (asks : Bool) (question : String) : Act Bool :=
  if asks then isConfirmed question else return true

/-- How an entry is kept under another name before it is replaced. -/
inductive Backup where
  /-- With something behind the name. -/
  | simple
  /-- With the next number. -/
  | numbered
  /-- With the next number if there is one with a number already. -/
  | existing
deriving DecidableEq

/-- The ways to keep entries by the words for them; none is for not keeping them. -/
def backupWords : List (String × Option Backup) :=
  [("none", none), ("off", none), ("simple", some .simple), ("never", some .simple),
    ("existing", some .existing), ("nil", some .existing), ("numbered", some .numbered),
    ("t", some .numbered)]

/-- What a tool does about the entries that it replaces, by its options. -/
def backupGiven (g : Given) : Act (Option (Backup × String)) := do
  let ending := (g.value? "S").getD "~"
  if ¬ g.has "b" ∧ ¬ g.has "S" then return none
  match g.value? "b" with
  | none | some "" => return some (.existing, ending)
  | some word =>
    match backupWords.filter fun w => word.toList.isPrefixOf w.1.toList with
    | [] => refuseUse 1 ("invalid argument " ++ quoted word ++ " for 'backup type'")
    | w :: _ => return w.2.map fun b => (b, ending)

/-- The name under which the entry at a path is kept. -/
def Backup.name (b : Backup) (ending path : String) : Act String := do
  let numberOf (n : String) : Option Nat :=
    let front := (lastComponent path ++ ".~").toList
    if front.isPrefixOf n.toList ∧ n.toList.getLast? = some '~' then
      (String.ofList (n.toList.drop front.length).dropLast).toNat?
    else none
  let numbers := (← entryNames (parentPath path)).filterMap numberOf
  if b = .numbered ∨ (b = .existing ∧ ¬ numbers.isEmpty) then
    return path ++ ".~" ++ toString (numbers.foldl max 0 + 1) ++ "~"
  else return path ++ ending

/-- Keeps the entry at a path under another name; gives that name. -/
def backUp (backup : Option (Backup × String)) (path : String) : Act (Option String) := do
  match backup with
  | none => return none
  | some (b, ending) =>
    let kept ← b.name ending path
    let _ ← change (fun fs q => fs.rename (Text.widen path) q) kept
    -- two entries of one file stay as they are
    if ← stands path then let _ ← change FileSystem.unlink path
    return some kept

/-- What is told of an entry that was kept. -/
def toldOfBackup (kept : Option String) : String :=
  match kept with
  | some name => " (backup: " ++ quoted name ++ ")"
  | none => ""

/-! ## 2. Removing -/

/-- When it is asked whether an entry is to be removed. -/
inductive Asking where
  | never
  | once
  | always
deriving DecidableEq

/-- How entries are removed. -/
structure Removal where
  recursive : Bool
  force : Bool
  emptyDirectories : Bool
  verbose : Bool
  /-- Whether every removal is asked for. -/
  asks : Bool

/-- What became of an entry that was to be removed. -/
inductive Removed where
  | gone
  | declined
  | failed
deriving DecidableEq

/-- What kind of entry a question names. -/
def kindOf (n : Node) : Act String := do
  match n with
  | .leaf (.file id) =>
    return if ((← files).data id).bytes.size = 0 then "regular empty file" else "regular file"
  | .leaf (.link _) => return "symbolic link"
  | .leaf .special => return "fifo"
  | .dir _ _ => return "directory"

/-- Removes the entry at a path. -/
def removeEntry (r : Removal) : (fuel : Nat) → (path : String) → Act Removed
  | 0, _ => return .failed
  | fuel + 1, path => do
    let refusal : String := "cannot remove " ++ quoted path
    let refused (e : Errno) : Act Removed := do
      complain (refusal ++ ": " ++ e.text)
      return .failed
    let agreed (asks : Bool) (question : String) : Act Bool := do
      isAgreed (r.asks && asks) ((← get).name ++ ": " ++ question ++ " " ++ quoted path ++ "? ")
    match ← entryAt path with
    | .error e =>
      if r.force ∧ (e = .noEntry ∨ e = .notDirectory) then return .gone else refused e
    | .ok (.dir _ inner) =>
      if ¬ r.recursive ∧ ¬ (r.emptyDirectories ∧ inner.isEmpty) then
        refused (if r.emptyDirectories then .notEmpty else .isDirectory)
      else if isDots path then
        complain ("refusing to remove '.' or '..' directory: skipping " ++ quoted path)
        return .failed
      else if ¬ (← agreed (!inner.isEmpty) "descend into directory") then return .declined
      else
        let names ← entryNames path
        let ends ← names.mapM fun n => removeEntry r fuel (inside path n)
        if ends.contains .failed then return .failed
        else if ends.contains .declined then return .declined
        else if ¬ (← agreed true "remove directory") then return .declined
        else
          match ← change FileSystem.removeDirectory path with
          | .error e => refused e
          | .ok _ =>
            if r.verbose then print ("removed directory " ++ quoted path ++ "\n")
            return .gone
    | .ok node =>
      if ¬ (← agreed true ("remove " ++ (← kindOf node))) then return .declined
      else
        match ← change FileSystem.unlink path with
        | .error e => refused e
        | .ok _ =>
          if r.verbose then print ("removed " ++ quoted path ++ "\n")
          return .gone

/-- Removes entries. -/
def rm (args : List String) : Act Nat := do
  let table := (((OptionTable.letters "dfiIrRv" "").withFlags [("force", "f"), ("recursive", "r"),
    ("dir", "d"), ("verbose", "v"), ("one-file-system", "one-file-system"),
    ("preserve-root", "preserve-root"), ("no-preserve-root", "no-preserve-root")]).withLoose
    [("interactive", "interactive")])
  let g ← given table 1 args
  let (force, asking) ← g.options.foldlM (fun (force, asking) (key, value) => do
    match key, value with
    | "f", _ => return (true, Asking.never)
    | "i", _ | "interactive", "" => return (false, .always)
    | "I", _ => return (false, .once)
    | "interactive", word =>
      match [("never", Asking.never), ("no", .never), ("none", .never), ("once", .once),
        ("always", .always), ("yes", .always)].find? fun w => word.toList.isPrefixOf w.1.toList with
      | some w => return (false, w.2)
      | none => refuseUse 1 ("invalid argument " ++ quoted word ++ " for '--interactive'")
    | _, _ => return (force, asking)) (false, Asking.never)
  let recursive := g.has "r" || g.has "R"
  let removal : Removal := ⟨recursive, force, g.has "d", g.has "v", asking = .always⟩
  if g.operands.isEmpty then
    if force then return 0 else refuseUse 1 "missing operand"
  let count := g.operands.length
  let agreed ← isAgreed (asking = .once && (recursive || 3 < count)) ((← get).name ++ ": remove " ++
    toString count ++ (if count = 1 then " argument" else " arguments") ++
    (if recursive then " recursively? " else "? "))
  if ¬ agreed then stop 0
  eachOperand g.operands fun p => do
    if removal.recursive ∧ p ≠ "" ∧ p.toList.all (· = '/') then
      complain ("it is dangerous to operate recursively on " ++ quoted p ++
        (if p = "/" then "" else " (same as '/')"))
      complain "use --no-preserve-root to override this failsafe"
      return false
    else return (← removeEntry removal treeDepth p) ≠ .failed

/-- Removes empty directories. -/
def rmdir (args : List String) : Act Nat := do
  let g ← given ((OptionTable.letters "pv" "").withFlags [("parents", "p"), ("verbose", "v"),
    ("ignore-fail-on-non-empty", "ignore")]) 1 args
  if g.operands.isEmpty then refuseUse 1 "missing operand"
  let remove (p : String) : Act Bool := do
    if g.has "v" then print ("rmdir: removing directory, " ++ quoted p ++ "\n")
    match ← change FileSystem.removeDirectory p with
    | .ok _ => return true
    | .error e =>
      let e := if e = .alreadyThere then (if lastComponent p = "." then .invalid else .notEmpty)
        else e
      if g.has "ignore" ∧ e = .notEmpty then return true
      else failed ("failed to remove " ++ quoted p) e
  eachOperand g.operands fun p => do
    if ¬ (← remove p) then return false
    else if g.has "p" then
      let cs := (p.toList.reverse.dropWhile (· = '/')).reverse
      let path := String.ofList cs
      let above := ((FileSystem.stepPaths path).dropLast).reverse
      let rec climb : List String → Act Bool
        | [] => return true
        | q :: qs => do if ← remove q then climb qs else return false
      climb (above.filter (· ≠ "/"))
    else return true

/-! ## 3. Making -/

/-- Makes directories. -/
def mkdir (args : List String) : Act Nat := do
  let g ← given (((OptionTable.letters "pvZ" "m").withFlags [("parents", "p"),
    ("verbose", "v")]).withValues [("mode", "m")]) 1 args
  if g.operands.isEmpty then refuseUse 1 "missing operand"
  match g.value? "m" with
  | some mode => if (modeChanges? mode).isNone then refuse 1 ("invalid mode " ++ quoted mode)
  | none => pure ()
  let make (p : String) : Act Bool := do
    match ← change FileSystem.makeDirectory p with
    | .ok _ =>
      if g.has "v" then
        print ((← get).name ++ ": created directory " ++ quoted p ++ "\n")
      return true
    | .error e => failed ("cannot create directory " ++ quoted p) e
  eachOperand g.operands fun p => do
    if ¬ g.has "p" then make p
    else
      let rec go : List String → Act Bool
        | [] => return true
        | q :: qs => do
          match ← resolve q with
          | .ok (.directory _ _ _) => go qs
          | .ok _ =>
            let e := if qs.isEmpty then Errno.alreadyThere else .notDirectory
            failed ("cannot create directory " ++ quoted q) e
          | .error _ => do if ← make q then go qs else return false
      if p = "" then failed "cannot create directory ''" .noEntry
      else go (FileSystem.stepPaths p)

/-- Makes pipes with names. -/
def mkfifo (args : List String) : Act Nat := do
  let g ← given ((OptionTable.letters "Z" "m").withValues [("mode", "m")]) 1 args
  if g.operands.isEmpty then refuseUse 1 "missing operand"
  eachOperand g.operands fun p => do
    match ← change (fun fs q => fs.create q (.leaf .special)) p with
    | .ok _ => return true
    | .error e => failed ("cannot create fifo " ++ quoted p) e

/-- The mode that a new file gets. -/
def freshMode : Act Nat := do return 0o666 &&& otherModeBits (← get).mask

/-- Makes files that are missing. -/
def touch (args : List String) : Act Nat := do
  let g ← given (((OptionTable.letters "acfhm" "drt").withFlags [("no-create", "c"),
    ("no-dereference", "h")]).withValues
    [("date", "d"), ("reference", "r"), ("time", "time")]) 1 args
  if g.operands.isEmpty then refuseUse 1 "missing file operand"
  match g.value? "r" with
  | some r =>
    match ← resolve r with
    | .ok _ => pure ()
    | .error e => refuse 1 ("failed to get attributes of " ++ quoted r ++ ": " ++ e.text)
  | none => pure ()
  match g.value? "t" with
  | some t =>
    let (digits, seconds) := (t.toList.takeWhile Char.isDigit, t.toList.dropWhile Char.isDigit)
    let isTime : Bool := ([8, 10, 12].contains digits.length) && (match seconds with
      | [] => true
      | ['.', a, b] => a.isDigit && b.isDigit
      | _ => false)
    if ¬ isTime then refuse 1 ("invalid date format " ++ quoted t)
  | none => pure ()
  let mode ← freshMode
  eachOperand g.operands fun p => do
    match ← resolve p with
    | .ok (.file _) =>
      if Path.endsInSlash p then failed ("setting times of " ++ quoted p) .notDirectory
      else return true
    | .ok _ => return true
    | .error e =>
      if g.has "c" ∧ e = .noEntry then return true
      else if g.has "h" then
        if (← stands p) then return true else failed ("setting times of " ++ quoted p) e
      else
        match ← change (fun fs q => fs.modifyFile q ⟨.empty, mode, none⟩ id) p with
        | .ok _ => return true
        | .error e =>
          let e := if e = .isDirectory then .noEntry else e
          if Path.endsInSlash p then failed ("setting times of " ++ quoted p) e
          else failed ("cannot touch " ++ quoted p) e

/-- The letters of which names of temporary files are made. -/
def nameLetters : List Char := "abcdefghijklmnopqrstuvwxyz0123456789".toList

/-- A row of letters for a number. -/
def nameFor (number count : Nat) : String :=
  String.ofList ((List.range count).map fun i =>
    (nameLetters[(number * 7 + i * 11 + number / 36) % 36]?).getD 'x')

/-- Makes a file or directory with a name that is not taken. -/
def mktemp (args : List String) : Act Nat := do
  let g ← given (((OptionTable.letters "dqtuV" "p").withFlags [("directory", "d"), ("quiet", "q"),
    ("dry-run", "u")]).withValues [("suffix", "suffix")] |>.withLoose [("tmpdir", "p")]) 1 args
  if g.has "V" then stop 0
  if 1 < g.operands.length then refuseUse 1 "too many templates"
  let template := (g.operands.head?).getD "tmp.XXXXXXXXXX"
  if g.has "suffix" ∧ template.toList.getLast? ≠ some 'X' then
    refuse 1 ("with --suffix, template " ++ quoted template ++ " must end in X")
  let cs := template.toList
  let back := cs.reverse.dropWhile (· ≠ 'X')
  let marks := back.takeWhile (· = 'X')
  let ending := String.ofList (cs.drop back.length) ++ (g.value? "suffix").getD ""
  if marks.length < 3 then refuse 1 ("too few X's in template " ++ quoted template)
  let front := String.ofList (back.drop marks.length).reverse
  let base ←
    if g.operands.isEmpty ∨ g.has "p" ∨ g.has "t" then
      let given := (g.value? "p").getD ""
      let m ← get
      let place := if given ≠ "" then given else (m.value? "TMPDIR").getD "/tmp"
      pure (inside place front)
    else pure front
  let rec search : (fuel : Nat) → Nat → Act String
    | 0, _ => refuse 1 "failed to create file"
    | fuel + 1, n => do
      let path := base ++ nameFor n marks.length ++ ending
      if ← stands path then search fuel (n + 1) else return path
  let path ← search 1000 (← get).world.lastProcess
  let made ←
    if g.has "u" then pure (.ok ())
    else if g.has "d" then change FileSystem.makeDirectory path
    else change (fun fs q => fs.modifyFile q ⟨.empty, 0o600, none⟩ id) path
  match made with
  | .ok _ => printAll (path ++ "\n")
  | .error e =>
    refuse 1 ("failed to create " ++ (if g.has "d" then "directory" else "file") ++
      " via template " ++ quoted (base ++ String.ofList marks ++ ending) ++ ": " ++ e.text)

/-- How a size follows from a number and the size that is there. -/
inductive Resizing where
  | exactly
  | more
  | less
  | atMost
  | atLeast
  | roundedDown
  | roundedUp

/-- The ways to give a size, by their signs. -/
def resizingSigns : List (Char × Resizing) :=
  [('+', .more), ('-', .less), ('<', .atMost), ('>', .atLeast), ('/', .roundedDown),
    ('%', .roundedUp)]

/-- The new size. -/
def Resizing.size (r : Resizing) (n old : Nat) : Nat :=
  match r with
  | exactly => n
  | more => old + n
  | less => old - n
  | atMost => min old n
  | atLeast => max old n
  | roundedDown => old / n * n
  | roundedUp => (old + n - 1) / n * n

/-- The size that an argument gives. -/
def resizing? (s : String) : Option (Resizing × Nat) :=
  let cs := s.toList.dropWhile (· = ' ')
  match cs.head?.bind (resizingSigns.lookup ·) with
  | some r => (amount? (String.ofList (cs.drop 1))).map fun n => (r, n)
  | none => (amount? (String.ofList cs)).map fun n => (.exactly, n)

/-- Sets the sizes of files. -/
def truncate (args : List String) : Act Nat := do
  let g ← given ((OptionTable.letters "co" "sr").withValues [("size", "s"), ("reference", "r")]
    |>.withFlags [("no-create", "c"), ("io-blocks", "o")]) 1 args
  let wanted ← match g.value? "s" with
    | none => pure none
    | some text =>
      match resizing? text with
      | none => refuse 1 ("Invalid number: " ++ quoted text)
      | some (r, n) => pure (some (r, if g.has "o" then n * 4096 else n))
  match wanted, g.value? "r" with
  | none, none => refuseUse 1 "you must specify either '--size' or '--reference'"
  | some (.exactly, _), some _ =>
    refuseUse 1 "you must specify a relative '--size' with '--reference'"
  | some (.roundedDown, 0), _ | some (.roundedUp, 0), _ => refuse 1 "division by zero"
  | _, _ => pure ()
  if g.operands.isEmpty then refuseUse 1 "missing file operand"
  let reference ← match g.value? "r" with
    | none => pure none
    | some r =>
      match ← resolve r with
      | .ok (.file id) => pure (some ((← files).data id).bytes.size)
      | .ok (.directory _ _ _) => pure (some 4096)
      | .ok .special => pure (some 0)
      | .error e => refuse 1 ("cannot stat " ++ quoted r ++ ": " ++ e.text)
  let mode ← freshMode
  let resize (d : FileData) : FileData :=
    let old := reference.getD d.bytes.size
    let size := match wanted with
      | some (r, n) => r.size n old
      | none => old
    { d with bytes := World.overwrite (d.bytes.extract 0 size) size .empty, native := none }
  eachOperand g.operands fun p => do
    if g.has "c" ∧ ¬ (← stands p) then return true
    match ← change (fun fs q => fs.modifyFile q ⟨.empty, mode, none⟩ resize) p with
    | .ok _ => return true
    | .error e => failed ("cannot open " ++ quoted p ++ " for writing") e

/-! ## 4. Copying -/

/-- Whether entries that are there are replaced. -/
inductive Replacing where
  | always
  | never
  | asked
deriving DecidableEq

/-- Whether entries are replaced, by the option that was given last. -/
def replacingGiven (g : Given) : Replacing :=
  match g.last? ["n", "i", "f"] with
  | some "n" => .never
  | some "i" => .asked
  | _ => .always

/-- Whether something may come to a path, at which an entry may stand. -/
def Replacing.allows (r : Replacing) (isThere : Bool) (path : String) : Act Bool := do
  match isThere, r with
  | false, _ | _, .always => return true
  | true, .never => return false
  | true, .asked => isConfirmed ((← get).name ++ ": overwrite " ++ quoted path ++ "? ")

/-- How entries are copied. -/
structure Copying where
  recursive : Bool
  /-- Whether links are followed; the operands and what is found below them apart. -/
  followsOperands : Bool
  followsAll : Bool
  keepsMode : Bool
  replacing : Replacing
  backup : Option (Backup × String)
  force : Bool
  verbose : Bool
  hardLinks : Bool
  symbolicLinks : Bool

/-- What stands at a path, a link followed or not. -/
def nodeAt (follow : Bool) (path : String) : Act (Except Errno Node) := do
  if ¬ follow then entryAt path
  else
    match ← resolve path with
    | .ok (.directory _ fault inside) => return .ok (.dir fault inside)
    | .ok (.file id) => return .ok (.leaf (.file id))
    | .ok .special => return .ok (.leaf .special)
    | .error e => return .error e

/-- The file that a path leads to. -/
def fileAt? (path : String) : Act (Option Nat) := do
  match ← resolve path with
  | .ok (.file id) => return some id
  | _ => return none

/-- Copies what a file holds. -/
def copyFile (c : Copying) (id : Nat) (target : String) : Act Bool := do
  let fs ← files
  let data := fs.data id
  let mask := (← get).mask
  let mode := if c.keepsMode then data.mode else data.mode &&& otherModeBits mask
  let fresh : FileData := ⟨.empty, mode, none⟩
  let fill (d : FileData) : FileData :=
    { d with
      bytes := data.bytes
      native := data.native
      mode := if c.keepsMode then data.mode else d.mode }
  match ← entryAt target, ← resolve target with
  | .ok (.leaf (.link _)), .error _ =>
    complain ("not writing through dangling symlink " ++ quoted target)
    return false
  | _, _ =>
    match ← change (fun fs q => fs.modifyFile q fresh fill) target with
    | .ok _ => return true
    | .error e => failed ("cannot create regular file " ++ quoted target) e

/-- Whether the directory at the place of the first path is the second path's or above it. -/
def isWithin (outer path : String) : Act Bool := do
  match ← resolve outer, ← resolve (parentPath path) with
  | .ok (.directory p _ _), .ok (.directory q _ _) => return p.isPrefixOf q
  | _, _ => return false

/-- Whether a path leads to the working directory. -/
def isHere (path : String) : Act Bool := do
  match ← resolve path with
  | .ok (.directory p _ _) => return p = (← files).workingDirectory
  | _ => return false

/-- Copies the entry at a path to another path. -/
def copyEntry (c : Copying) : (fuel : Nat) → (operand : Bool) → (source target : String) → Act Bool
  | 0, _, _, _ => return false
  | fuel + 1, operand, source, target => do
    let follow := c.followsAll || (operand && c.followsOperands)
    let toldWith (kept : Option String) : Act Unit :=
      if c.verbose then
        print (quoted source ++ " -> " ++ quoted target ++ toldOfBackup kept ++ "\n")
      else pure ()
    match ← nodeAt follow source with
    | .error e => failed ("cannot stat " ++ quoted source) e
    | .ok node =>
      let old ← nodeAt true target
      let isThere ← stands target
      match node, old with
      | .dir _ _, _ =>
        if ¬ c.recursive then
          complain ("-r not specified; omitting directory " ++ quoted source)
          return false
        else if old.isOk ∧ ¬ (← isDirectory target) then
          complain ("cannot overwrite non-directory " ++ quoted target ++ " with directory " ++
            quoted source)
          return false
        else if ← isWithin source target then
          complain
            ("cannot copy a directory, " ++ quoted source ++ ", into itself, " ++ quoted target)
          return false
        else
          let made ←
            if old.isOk then pure (.ok ())
            else do
              toldWith none
              change FileSystem.makeDirectory target
          match made with
          | .error e => failed ("cannot create directory " ++ quoted target) e
          | .ok _ =>
            let names ← entryNames source
            let bad ← names.filterM fun n =>
              return !(← copyEntry c fuel false (inside source n) (inside target n))
            return bad.isEmpty
      | _, .ok (.dir _ _) =>
        complain ("cannot overwrite directory " ++ quoted target ++ " with non-directory" ++
          (if operand then "" else " " ++ quoted source))
        return false
      | .leaf l, _ =>
        let same ← match l, ← entryAt target with
          | .file id, _ => pure ((← fileAt? target) == some id)
          | .link _, .ok (.leaf (.link _)) =>
            pure (parentPath source == parentPath target &&
              lastComponent source == lastComponent target)
          | _, _ => pure false
        if same ∧ c.hardLinks then return true
        else if same ∧ c.replacing ≠ .never then
          complain (quoted source ++ " and " ++ quoted target ++ " are the same file")
          return false
        else if ¬ (← c.replacing.allows isThere target) then return true
        else
          let kept ← if isThere then backUp c.backup target else pure none
          let isThere := isThere && kept.isNone
          let ended (made : Except Errno Unit) (kind : String) (naming : Bool) : Act Bool := do
            match made with
            | .ok _ =>
              toldWith kept
              return true
            | .error e =>
              failed ("cannot create " ++ kind ++ " " ++ quoted target ++
                (if naming then " to " ++ quoted source else "")) e
          if isThere ∧ c.force ∧ (c.hardLinks ∨ c.symbolicLinks) then
            let _ ← change FileSystem.unlink target
          if c.hardLinks then
            ended (← change (fun fs q => fs.hardLink (Text.widen source) q) target) "hard link" true
          else if c.symbolicLinks then
            if ¬ Path.isAbsolute source ∧ ¬ (← isHere (parentPath target)) then
              complain (shown target ++
                ": can make relative symbolic links only in current directory")
              return false
            else
              ended (← change (fun fs q => fs.create q (.leaf (.link (Text.widen source)))) target)
                "symbolic link" true
          else
            match l with
            | .file id =>
              if ← copyFile c id target then
                toldWith kept
                return true
              else return false
            | .link _ | .special =>
              if isThere then let _ ← change FileSystem.unlink target
              let kind : String := match l with
                | .link _ => "symbolic link"
                | _ => "fifo"
              ended (← change (fun fs q => fs.create q (.leaf l)) target) kind false

/-- The operands as sources and targets: the last one is a target, or a directory for all. -/
def sourcesAndTarget (g : Given) : Act (List (String × String)) := do
  let into (directory : String) (ps : List String) : List (String × String) :=
    ps.map fun p => (p, inside directory (lastComponent p))
  match g.value? "t" with
  | some directory =>
    if g.operands.isEmpty then refuseUse 1 "missing file operand"
    if ¬ (← isDirectory directory) then
      match ← resolve directory with
      | .ok _ =>
        refuse 1 ("target directory " ++ quoted directory ++ ": " ++ Errno.notDirectory.text)
      | .error e => refuse 1 ("target directory " ++ quoted directory ++ ": " ++ e.text)
    return into directory g.operands
  | none =>
    match g.operands with
    | [] => refuseUse 1 "missing file operand"
    | [a] => refuseUse 1 ("missing destination file operand after " ++ quoted a)
    | [a, b] =>
      if ¬ g.has "T" ∧ (← isDirectory b) then return into b [a]
      else return [(a, b)]
    | a :: b :: rest =>
      if g.has "T" then refuseUse 1 ("extra operand " ++ quoted (rest.headD b))
      let all := a :: b :: rest
      let last := all.getLastD a
      if ← isDirectory last then return into last all.dropLast
      else
        match ← resolve last with
        | .ok _ => refuse 1 ("target " ++ quoted last ++ ": " ++ Errno.notDirectory.text)
        | .error e => refuse 1 ("target " ++ quoted last ++ ": " ++ e.text)

/-- Copies entries. -/
def cp (args : List String) : Act Nat := do
  let table := (((OptionTable.letters "abdfHilLnpPrRsTuvxZ" "tS").withFlags [("archive", "a"),
    ("force", "f"), ("interactive", "i"), ("link", "l"), ("dereference", "L"), ("no-clobber", "n"),
    ("no-dereference", "P"), ("recursive", "r"), ("symbolic-link", "s"),
    ("no-target-directory", "T"), ("update", "u"), ("verbose", "v"), ("parents", "parents"),
    ("remove-destination", "remove-destination")]).withValues [("target-directory", "t"),
    ("suffix", "S"), ("no-preserve", "no-preserve")]).withLoose [("preserve", "p"), ("backup", "b"),
    ("reflink", "reflink"), ("sparse", "sparse")]
  let g ← given table 1 args
  let recursive := g.has "r" || g.has "R" || g.has "a"
  let links := g.last? ["L", "P", "d", "a", "H"]
  let keeps := links = some "P" || links = some "d" || links = some "a"
  let c : Copying := {
    recursive
    followsOperands := links = some "H" || links = some "L" || (!keeps && !recursive)
    followsAll := links = some "L"
    keepsMode := g.has "p" || g.has "a"
    replacing := replacingGiven g
    backup := ← backupGiven g
    force := g.has "f"
    verbose := g.has "v"
    hardLinks := g.has "l"
    symbolicLinks := g.has "s" }
  let pairs ← sourcesAndTarget g
  if ¬ g.has "parents" then
    let bad ← pairs.filterM fun (source, target) =>
      return !(← copyEntry c treeDepth true source target)
    return if bad.isEmpty then 0 else 1
  else
    let directory := (g.value? "t").getD (g.operands.getLastD "")
    if ¬ (← isDirectory directory) then
      refuseUse 1 "with --parents, the destination must be a directory"
    let bad ← pairs.filterM fun (source, _) => do
      let above := (FileSystem.stepPaths source).dropLast
      if ¬ (← stands source) then return !(← copyEntry c treeDepth true source directory)
      above.forM fun p => do
        let _ ← change FileSystem.makeDirectory (inside directory p)
      return !(← copyEntry c treeDepth true source (inside directory source))
    return if bad.isEmpty then 0 else 1

/-! ## 5. Moving -/

/-- Moves the entry at a path to another path. -/
def moveEntry (replacing : Replacing) (backup : Option (Backup × String)) (verbose : Bool)
    (source target : String) : Act Bool := do
  let done (kept : Option String) : Act Bool := do
    if verbose then
      print ("renamed " ++ quoted source ++ " -> " ++ quoted target ++ toldOfBackup kept ++ "\n")
    return true
  match ← entryAt source with
  | .error e => failed ("cannot stat " ++ quoted source) e
  | .ok node =>
    let fs ← files
    let old ← entryAt target
    let spot (p : String) : Option FileSystem.Spot := (fs.locate (Text.widen p)).toOption
    let sameSpot := (spot source).isSome &&
      (spot source).map (fun s => (s.place, s.name)) = (spot target).map fun s => (s.place, s.name)
    if sameSpot then
      if replacing = .never then return true
      complain (quoted source ++ " and " ++ quoted target ++ " are the same file")
      return false
    else if ¬ (← replacing.allows old.isOk target) then return true
    else
      match node, old with
      | .dir _ _, .ok (.leaf _) =>
        complain ("cannot overwrite non-directory " ++ quoted target ++ " with directory " ++
          quoted source)
        return false
      | .leaf _, .ok (.dir _ _) =>
        complain ("cannot overwrite directory " ++ quoted target ++ " with non-directory")
        return false
      | .leaf (.file i), .ok (.leaf (.file j)) =>
        if i = j then
          match ← change FileSystem.unlink source with
          | .ok _ => done none
          | .error e => failed ("cannot remove " ++ quoted source) e
        else rename done old.isOk
      | _, _ => rename done old.isOk
where
  rename (done : Option String → Act Bool) (isThere : Bool) : Act Bool := do
    let kept ← if isThere then backUp backup target else pure none
    match ← change (fun fs q => fs.rename (Text.widen source) q) target with
    | .ok _ => done kept
    | .error e =>
      if e = .invalid then
        complain
          ("cannot move " ++ quoted source ++ " to a subdirectory of itself, " ++ quoted target)
        return false
      else if e = .notEmpty then failed ("cannot overwrite " ++ quoted target) e
      else failed ("cannot move " ++ quoted source ++ " to " ++ quoted target) e

/-- Moves entries. -/
def mv (args : List String) : Act Nat := do
  let table := (((OptionTable.letters "bfinTuvZ" "tS").withFlags [("force", "f"),
    ("interactive", "i"), ("no-clobber", "n"), ("no-target-directory", "T"), ("update", "u"),
    ("verbose", "v"), ("strip-trailing-slashes", "strip")]).withValues [("target-directory", "t"),
    ("suffix", "S")]).withLoose [("backup", "b")]
  let g ← given table 1 args
  let backup ← backupGiven g
  let pairs ← sourcesAndTarget g
  let bad ← pairs.filterM fun (source, target) =>
    return !(← moveEntry (replacingGiven g) backup (g.has "v") source target)
  return if bad.isEmpty then 0 else 1

/-! ## 6. Links -/

/-- The names of a path without symbolic links; with `missing` the names that are not there may be
any number, with `last` only the last one. -/
def canonical (missing lastMissing : Bool) : (fuel : Nat) → List String → List String →
    Act (Except Errno (List String))
  | 0, _, _ => return .error .linkLoop
  | _ + 1, done, [] => return .ok done
  | fuel + 1, done, c :: cs => do
    if c = "" ∨ c = "." then canonical missing lastMissing fuel done cs
    else if c = ".." then canonical missing lastMissing fuel done.dropLast cs
    else
      let fs ← files
      match fs.entry? done c with
      | some (.leaf (.link target)) =>
        let start := if Path.isAbsolute target then [] else done
        canonical missing lastMissing fuel start (Path.components target ++ cs)
      | some (.dir _ _) => canonical missing lastMissing fuel (done ++ [c]) cs
      | some (.leaf _) =>
        if cs.all (· = "") ∧ (cs.isEmpty ∨ missing) then return .ok (done ++ [c])
        else if missing then canonical missing lastMissing fuel (done ++ [c]) cs
        else return .error .notDirectory
      | none =>
        if missing ∨ (lastMissing ∧ cs.all (· = "")) then
          canonical missing lastMissing fuel (done ++ [c]) cs
        else return .error .noEntry

/-- The path without symbolic links that leads where a path leads. -/
def canonicalPath (missing lastMissing : Bool) (path : String) : Act (Except Errno String) := do
  if path = "" then return .error .noEntry
  let wide := Text.widen path
  let here := (← files).workingDirectory
  let start := if Path.isAbsolute wide then [] else here
  match ← canonical missing lastMissing 10000 start (Path.components wide) with
  | .ok names => return .ok (Text.narrow ("/" ++ "/".intercalate names))
  | .error e => return .error e

/-- A path as seen from another one. -/
def relativePath (base path : String) : String :=
  let names (p : String) : List String := (Path.components p).filter (· ≠ "")
  let rec strip : List String → List String → List String
    | a :: as, b :: bs => if a = b then strip as bs else (a :: as).map (fun _ => "..") ++ b :: bs
    | as, bs => as.map (fun _ => "..") ++ bs
  let steps := strip (names base) (names path)
  if steps.isEmpty then "." else "/".intercalate steps

/-- A path as seen from the directory in which an entry is to be. -/
def seenFrom (target source : String) : Act String := do
  match ← canonicalPath true true (parentPath target), ← canonicalPath true true source with
  | .ok base, .ok path => return relativePath base path
  | _, _ => return source

/-- How links are made. -/
structure Linking where
  symbolic : Bool
  /-- Whether an entry that is there is removed, and whether that is asked. -/
  replaces : Bool
  asks : Bool
  backup : Option (Backup × String)
  verbose : Bool

/-- Makes a link. -/
def linkEntry (l : Linking) (source target : String) : Act Bool := do
  let symbolic := l.symbolic
  let kind : String := if symbolic then "symbolic link" else "hard link"
  let make : Act (Except Errno Unit) :=
    if symbolic then change (fun fs q => fs.create q (.leaf (.link (Text.widen source)))) target
    else change (fun fs q => fs.hardLink (Text.widen source) q) target
  let sourceNode ← entryAt source
  let isDir : Bool := match sourceNode with
    | .ok (.dir _ _) => true
    | _ => false
  if ¬ symbolic ∧ ¬ sourceNode.isOk then
    failed ("failed to access " ++ quoted source) (match sourceNode with
      | .error e => e
      | .ok _ => .noEntry)
  else if ¬ symbolic ∧ isDir then
    complain (source ++ ": hard link not allowed for directory")
    return false
  else
    let old ← entryAt target
    let isOldDir : Bool := match old with
      | .ok (.dir _ _) => true
      | _ => false
    let fs ← files
    let spot (p : String) : Option (List String × String) :=
      (fs.locate (Text.widen p)).toOption.map fun s => (s.place, s.name)
    let sourceFile ← fileAt? source
    let isLink : Bool := match sourceNode with
      | .ok (.leaf (.link _)) => true
      | _ => false
    let isSame : Bool := match old with
      | .ok (.leaf (.file id)) => sourceFile = some id && (isLink || spot source = spot target)
      | _ => false
    let replaces := l.replaces || l.asks || l.backup.isSome
    if replaces ∧ isSame then
      complain (quoted source ++ " and " ++ quoted target ++ " are the same file")
      return false
    else if replaces ∧ old.isOk ∧ isOldDir then
      complain (target ++ ": cannot overwrite directory")
      return false
    else if ¬ (← isAgreed (l.asks && old.isOk)
        ((← get).name ++ ": replace " ++ quoted target ++ "? ")) then
      return true
    else
      let kept ← if old.isOk then backUp l.backup target else pure none
      if (l.replaces ∨ l.asks) ∧ old.isOk ∧ kept.isNone then
        let _ ← change FileSystem.unlink target
      match ← make with
      | .ok _ =>
        if l.verbose then
          print (quoted target ++ (if symbolic then " -> " else " => ") ++ quoted source ++
            toldOfBackup kept ++ "\n")
        return true
      | .error e =>
        failed ("failed to create " ++ kind ++ " " ++ quoted target ++
          (if symbolic then "" else if e = .alreadyThere then "" else " => " ++ quoted source)) e

/-- Makes links. -/
def ln (args : List String) : Act Nat := do
  let table := (((OptionTable.letters "bdfFiLnPrsTv" "tS").withFlags [("force", "f"),
    ("no-dereference", "n"), ("symbolic", "s"), ("no-target-directory", "T"), ("verbose", "v"),
    ("relative", "r"), ("interactive", "i")]).withValues
    [("target-directory", "t"), ("suffix", "S")]
    |>.withLoose [("backup", "b")])
  let g ← given table 1 args
  if g.has "r" ∧ ¬ g.has "s" then refuse 1 "cannot do --relative without --symbolic"
  let backup ← backupGiven g
  let linking : Linking := ⟨g.has "s", g.last? ["f", "i"] = some "f", g.last? ["f", "i"] = some "i",
    backup, g.has "v"⟩
  let into (directory : String) (ps : List String) : List (String × String) :=
    ps.map fun p => (p, inside directory (lastComponent p))
  let plainTarget (p : String) : Act Bool := do
    match ← entryAt p with
    | .ok (.leaf (.link _)) => if g.has "n" then return false else isDirectory p
    | _ => isDirectory p
  let pairs ← match g.value? "t", g.operands with
    | _, [] => refuseUse 1 "missing file operand"
    | some directory, ps => pure (into directory ps)
    | none, [a] => pure [(a, "./" ++ lastComponent a)]
    | none, [a, b] => if ¬ g.has "T" ∧ (← plainTarget b) then pure (into b [a]) else pure [(a, b)]
    | none, all =>
      let last := all.getLastD ""
      if ← plainTarget last then pure (into last all.dropLast)
      else
        let e := match ← resolve last with
          | .ok _ => Errno.notDirectory
          | .error e => e
        refuse 1 ("target " ++ quoted last ++ ": " ++ e.text)
  let bad ← pairs.filterM fun (source, target) => do
    let source ← if g.has "r" then seenFrom target source else pure source
    return !(← linkEntry linking source target)
  return if bad.isEmpty then 0 else 1

/-- Prints where links lead. -/
def readlink (args : List String) : Act Nat := do
  let g ← given ((OptionTable.letters "fenmqsvz" "").withFlags [("canonicalize", "f"),
    ("canonicalize-existing", "e"), ("canonicalize-missing", "m"), ("no-newline", "n"),
    ("zero", "z"), ("verbose", "v"), ("quiet", "q")]) 1 args
  if g.operands.isEmpty then refuseUse 1 "missing operand"
  let ending := if g.has "n" ∧ g.operands.length = 1 then "" else if g.has "z" then "\x00" else "\n"
  let mode := g.last? ["f", "e", "m"]
  eachOperand g.operands fun p => do
    let found : Except Errno String ← match mode with
      | some key => canonicalPath (key = "m") (key = "f") p
      | none => do
        match ← entryAt p with
        | .ok (.leaf (.link target)) => pure (.ok (Text.narrow target))
        | .ok _ => pure (.error .invalid)
        | .error e => pure (.error e)
    match found with
    | .ok path => print (path ++ ending); return true
    | .error e => if g.has "v" then failed (shown p) e else return false

/-- Prints paths without links. -/
def realpath (args : List String) : Act Nat := do
  let g ← given (((OptionTable.letters "eLmPqsz" "").withFlags [("canonicalize-existing", "e"),
    ("canonicalize-missing", "m"), ("quiet", "q"), ("strip", "s"), ("no-symlinks", "s"),
    ("zero", "z")]).withValues [("relative-to", "relative-to"), ("relative-base", "relative-base")])
    1 args
  if g.operands.isEmpty then refuseUse 1 "missing operand"
  let m ← get
  let here := Text.narrow ("/" ++ "/".intercalate m.world.files.workingDirectory)
  let find (p : String) : Act (Except Errno String) :=
    if g.has "s" then
      return if p = "" then .error .noEntry else .ok (logicalPath here p)
    else canonicalPath (g.has "m") (!g.has "e") p
  let base : Option String ← match g.value? "relative-to" with
    | none => pure none
    | some b => do
      match ← find b with
      | .ok p => pure (some p)
      | .error e => refuse 1 (shown b ++ ": " ++ e.text)
  eachOperand g.operands fun p => do
    match ← find p with
    | .ok path =>
      let path := match base with
        | some b => relativePath b path
        | none => path
      print (path ++ if g.has "z" then "\x00" else "\n")
      return true
    | .error e => if g.has "q" then return false else failed (shown p) e

/-! ## 7. Modes -/

/-- A mode in letters, with the kind of the entry in front. -/
def modeText (kind : Char) (mode : Nat) : String :=
  let rights (shift : Nat) (special : Bool) (small large : Char) : String :=
    let bits := (mode >>> shift) &&& 7
    let run := bits &&& 1 ≠ 0
    (if bits &&& 4 = 0 then "-" else "r") ++ (if bits &&& 2 = 0 then "-" else "w") ++
      (if special then (if run then small else large).toString else if run then "x" else "-")
  kind.toString ++ rights 6 (mode &&& 0o4000 ≠ 0) 's' 'S' ++
    rights 3 (mode &&& 0o2000 ≠ 0) 's' 'S' ++ rights 0 (mode &&& 0o1000 ≠ 0) 't' 'T'

/-- The mode that directories have. -/
def directoryMode : Nat := 0o755

/-- Changes the mode of the entry at a path, and of those below it. -/
def changeMode (g : Given) (changes : List ModeChange) (surprising : Bool) : (fuel : Nat) →
    (operand : Bool) → (path : String) → Act Bool
  | 0, _, _ => return false
  | fuel + 1, operand, path => do
    let quiet := g.has "f"
    let tell (old new : Nat) : Act Unit := do
      if g.has "v" ∨ (g.has "c" ∧ old ≠ new) then
        let form (n : Nat) : String :=
          octalText 4 n ++ " (" ++ String.ofList ((modeText '-' n).toList.drop 1) ++ ")"
        print ("mode of " ++ quoted path ++
          (if old = new then " retained as " ++ form new
           else " changed from " ++ form old ++ " to " ++ form new) ++ "\n")
    let linked ← entryAt path
    let isLink : Bool := match linked with
      | .ok (.leaf (.link _)) => true
      | _ => false
    if isLink ∧ ¬ operand then return true
    match ← resolve path with
    | .error e =>
      if quiet then return false
      else if isLink then
        complain ("cannot operate on dangling symlink " ++ quoted path)
        return false
      else failed ("cannot access " ++ quoted path) e
    | .ok (.file id) =>
      let old := ((← files).data id).mode
      let mask := (← get).mask
      let new := applyChanges changes false mask old
      match ← change (fun fs q => fs.setMode q fun _ => new) path with
      | .error e => failed ("changing permissions of " ++ quoted path) e
      | .ok _ =>
        tell old new
        let naive := applyChanges changes false 0 old
        if surprising ∧ new &&& otherModeBits naive ≠ 0 then
          let form (n : Nat) : String := String.ofList ((modeText '-' n).toList.drop 1)
          complain (path ++ ": new permissions are " ++ form new ++ ", not " ++ form naive)
          return false
        else return true
    | .ok .special => return true
    | .ok (.directory _ _ _) =>
      tell directoryMode directoryMode
      if g.has "R" then
        let names ← entryNames path
        let bad ← names.filterM fun n =>
          return !(← changeMode g changes surprising fuel false (inside path n))
        return bad.isEmpty
      else return true

/-- Whether an argument is a change of a mode that looks like options. -/
def isModeArgument (a : String) : Bool :=
  match a.toList with
  | '-' :: cs => !cs.isEmpty && cs.all fun c => "rwxXstugoa,+=-01234567".toList.contains c
  | _ => false

/-- Changes modes. -/
def chmod (args : List String) : Act Nat := do
  let front := args.takeWhile (· ≠ "--")
  let dashed := front.filter isModeArgument
  let others := front.filter (fun a => !isModeArgument a) ++ args.drop front.length
  let g ← given (((OptionTable.letters "Rcfv" "").withFlags [("changes", "c"), ("quiet", "f"),
    ("silent", "f"), ("verbose", "v"), ("recursive", "R"), ("preserve-root", "preserve-root"),
    ("no-preserve-root", "no-preserve-root")]).withValues [("reference", "reference")]) 1 others
  let reference : Option Nat ← match g.value? "reference" with
    | none => pure none
    | some r => do
      match ← fileAt? r with
      | some id => pure (some ((← files).data id).mode)
      | none => refuse 1 ("failed to get attributes of " ++ quoted r ++ ": " ++ Errno.noEntry.text)
  let (written, operands) : String × List String :=
    match reference, dashed, g.operands with
    | some _, _, ps => ("", ps)
    | none, d :: ds, ps => (",".intercalate (d :: ds), ps)
    | none, [], a :: ps => (a, ps)
    | none, [], [] => ("", [])
  if reference.isNone ∧ dashed.isEmpty ∧ g.operands.isEmpty then refuseUse 1 "missing operand"
  if operands.isEmpty then
    if reference.isSome then refuseUse 1 "missing operand"
    else refuseUse 1 ("missing operand after " ++ quoted written)
  let changes ← match reference with
    | some mode => pure [(⟨.set, allModeBits, .these mode, allModeBits⟩ : ModeChange)]
    | none =>
      match modeChanges? written with
      | some changes => pure changes
      | none => refuseUse 1 ("invalid mode: " ++ quoted written)
  eachOperand operands (changeMode g changes (!dashed.isEmpty) treeDepth true)

/-- What is wrong with a text for an owner and a group, if anything is. -/
def ownerFault? (s : String) : Option String :=
  let user := String.ofList (s.toList.takeWhile fun c => c ≠ ':' && c ≠ '.')
  let group := String.ofList (s.toList.drop (user.length + 1))
  if user ≠ "" ∧ ¬ isKnown userNames user then some ("invalid user: " ++ quoted s)
  else if group ≠ "" ∧ ¬ isKnown groupNames group then some ("invalid group: " ++ quoted s)
  else none

/-- Changes owners or groups, which changes nothing that is known of files. -/
def chownAs (fault? : String → Option String) (args : List String) : Act Nat := do
  let g ← given ((OptionTable.letters "RcfhvHLP" "").withFlags [("recursive", "R"),
    ("verbose", "v"), ("no-dereference", "h"), ("changes", "c"), ("quiet", "f"), ("silent", "f")]
    |>.withValues [("from", "from"), ("reference", "reference")]) 1 args
  let operands := if g.has "reference" then "root" :: g.operands else g.operands
  match operands with
  | [] => refuseUse 1 "missing operand"
  | [a] =>
    if g.has "reference" then refuseUse 1 "missing operand"
    else refuseUse 1 ("missing operand after " ++ quoted a)
  | owner :: paths =>
    match fault? owner with
    | some text => refuse 1 text
    | none => pure ()
    eachOperand paths fun p => do
      match ← resolve p with
      | .ok _ => return true
      | .error e => if g.has "f" then return false else failed ("cannot access " ++ quoted p) e

/-- Changes owners. -/
def chown : List String → Act Nat := chownAs ownerFault?

/-- Changes groups. -/
def chgrp : List String → Act Nat :=
  chownAs fun s => if isKnown groupNames s then none else some ("invalid group: " ++ quoted s)

/-! ## 8. Listing -/

/-- How entries are listed. -/
structure ListStyle where
  hidden : Bool
  dots : Bool
  long : Bool
  classify : Bool
  slashes : Bool
  reverse : Bool
  bySize : Bool
  unsorted : Bool
  commas : Bool
  /-- The patterns of names that are left out. -/
  ignored : List (List Glob)

/-- The kind of an entry as a letter. -/
def kindLetter : Node → Char
  | .dir _ _ => 'd'
  | .leaf (.link _) => 'l'
  | .leaf (.file _) => '-'
  | .leaf .special => 'p'

/-- The size and the mode of an entry. -/
def sizeAndMode (n : Node) : Act (Nat × Nat) := do
  match n with
  | .dir _ _ => return (4096, directoryMode)
  | .leaf (.link target) => return (target.utf8ByteSize, 0o777)
  | .leaf .special => return (0, 0o644)
  | .leaf (.file id) =>
    let d := (← files).data id
    return (d.bytes.size, d.mode)

/-- The line of an entry. -/
def listLine (s : ListStyle) (path name : String) : Act String := do
  match ← entryAt path with
  | .error _ => return name
  | .ok node =>
    let (size, mode) ← sizeAndMode node
    let mark := match node with
      | .dir _ _ => if s.classify || s.slashes then "/" else ""
      | .leaf (.link _) => if s.classify && !s.long then "@" else ""
      | .leaf .special => if s.classify then "|" else ""
      | .leaf (.file _) => if s.classify && mode &&& 0o111 ≠ 0 then "*" else ""
    if s.long then
      let target := match node with
        | .leaf (.link t) => " -> " ++ Text.narrow t
        | _ => ""
      return modeText (kindLetter node) mode ++ " 1 root root " ++ toString size ++
        " Jan  1 00:00 " ++ name ++ mark ++ target
    else return name ++ mark

/-- The names in the order in which they are listed. -/
def listOrder (s : ListStyle) (directory : String) (names : List String) : Act (List String) := do
  let sized ← names.mapM fun n => do
    match ← entryAt (if directory = "" then n else inside directory n) with
    | .ok node => return (n, (← sizeAndMode node).1)
    | .error _ => return (n, 0)
  let sorted :=
    if s.unsorted then sized
    else if s.bySize then
      sized.mergeSort fun a b => a.2 > b.2 || (a.2 = b.2 && a.1 ≤ b.1)
    else sized.mergeSort fun a b => a.1 ≤ b.1
  let ordered := sorted.map (·.1)
  return if s.reverse then ordered.reverse else ordered

/-- Lists what a directory holds. -/
def listDirectory (s : ListStyle) (path : String) : Act Unit := do
  let names ← entryNames path
  let names := if s.hidden ∨ s.dots then names else names.filter fun n => n.toList.head? ≠ some '.'
  let names := names.filter fun n => !s.ignored.any (fits · n.toList)
  let names ← listOrder s path (if s.dots then "." :: ".." :: names else names)
  if s.long then print ("total " ++ toString (4 * names.length) ++ "\n")
  let rows ← names.mapM fun n => listLine s (inside path n) n
  if s.commas then
    if ¬ rows.isEmpty then print (", ".intercalate rows ++ "\n")
  else print (String.join (rows.map (· ++ "\n")))

/-- Lists directories one after the other, those below them too if that is asked for. -/
def listAll (s : ListStyle) (recursive headed : Bool) : (fuel : Nat) → (first : Bool) →
    List String → Act Unit
  | 0, _, _ => pure ()
  | _ + 1, _, [] => pure ()
  | fuel + 1, first, p :: ps => do
    if headed then print ((if first then "" else "\n") ++ p ++ ":\n")
    listDirectory s p
    let below ←
      if recursive then do
        let names ← entryNames p
        let names := if s.hidden ∨ s.dots then names
          else names.filter fun n => n.toList.head? ≠ some '.'
        let names := names.filter fun n => !s.ignored.any (fits · n.toList)
        let names ← listOrder s p names
        names.filterM fun n => do
          match ← entryAt (inside p n) with
          | .ok (.dir _ _) => return true
          | _ => return false
      else pure []
    listAll s recursive headed fuel false (below.map (inside p) ++ ps)

/-- Lists entries. -/
def ls (args : List String) : Act Nat := do
  let table := (((OptionTable.letters "aAbBcCdDfFgGhHiklLmnNopqQrRsStuUvxXZ1" "ITw").withFlags
    [("all", "a"), ("almost-all", "A"), ("directory", "d"), ("reverse", "r"), ("recursive", "R"),
      ("human-readable", "h"), ("inode", "i"), ("size", "s")]).withLoose [("color", "color"),
    ("classify", "F")]).withValues [("sort", "sort"), ("ignore", "I"), ("width", "w"),
    ("format", "format"), ("time", "time"), ("time-style", "time-style"),
    ("indicator-style", "indicator-style"), ("quoting-style", "quoting-style")]
  let g ← given table 2 args
  [("w", "line width"), ("T", "tab size")].forM fun (key, what) => do
    match g.value? key with
    | some v => if (amount? v).isNone then refuse 2 ("invalid " ++ what ++ ": " ++ quoted v)
    | none => pure ()
  let long := ["l", "n", "g", "o"].any g.has
  let s : ListStyle := ⟨g.has "A", g.has "a" || g.has "f", long, g.has "F", g.has "p", g.has "r",
    g.has "S", g.has "U" || g.has "f", g.has "m",
    (g.values "I" ++ if g.has "B" then ["*~"] else []).map fun p =>
      Glob.ofText (p.toList.map fun c => (c, false))⟩
  let paths := if g.operands.isEmpty then ["."] else g.operands
  let found ← paths.mapM fun p => do
    match ← resolve p, ← entryAt p with
    | .ok (.directory _ _ _), .ok (.leaf (.link _)) =>
      return some (p, !g.has "d" && !(long || g.has "F"))
    | .ok (.directory _ _ _), _ => return some (p, !g.has "d")
    | _, .ok _ => return some (p, false)
    | _, .error e =>
      complain ("cannot access " ++ quoted p ++ ": " ++ e.text)
      return none
  let there := found.filterMap id
  let single ← listOrder s "" ((there.filter fun p => !p.2).map (·.1))
  let directories ← listOrder s "" ((there.filter (·.2)).map (·.1))
  let rows ← single.mapM fun p => listLine s p p
  if s.commas then
    if ¬ rows.isEmpty then print (", ".intercalate rows ++ "\n")
  else print (String.join (rows.map (· ++ "\n")))
  let headed := g.has "R" || paths.length > 1
  listAll s (g.has "R") headed 100000 single.isEmpty directories
  return if found.any Option.isNone then 2 else 0

/-- What a letter of a format for entries stands for. -/
def statLetter (path : String) (n : Node) (letter : Char) : Act String := do
  let (size, mode) ← sizeAndMode n
  match letter with
  | 'n' => return path
  | 's' => return toString size
  | 'a' => return octalText 1 mode
  | 'A' => return modeText (kindLetter n) mode
  | 'F' => kindOf n
  | 'U' | 'G' => return "root"
  | 'u' | 'g' => return "0"
  | 'h' => return "1"
  | 'N' =>
    match n with
    | .leaf (.link t) => return quoted path ++ " -> " ++ quoted (Text.narrow t)
    | _ => return quoted path
  | '%' => return "%"
  | _ => return "0"

/-- Lays out what is known of an entry. -/
def statText (path : String) (n : Node) (escapes : Bool) : (fuel : Nat) → List Char → Act String
  | 0, _ => return ""
  | _ + 1, [] => return ""
  | fuel + 1, '%' :: c :: cs => do
    return (← statLetter path n c) ++ (← statText path n escapes fuel cs)
  | fuel + 1, '\\' :: cs => do
    if escapes then
      let (front, rest, _) := toolEscape false cs
      return String.ofList front ++ (← statText path n escapes fuel rest)
    else return "\\" ++ (← statText path n escapes fuel cs)
  | fuel + 1, c :: cs => do return c.toString ++ (← statText path n escapes fuel cs)

/-- Tells what is known of entries. -/
def stat (args : List String) : Act Nat := do
  let g ← given (((OptionTable.letters "Lft" "c").withFlags [("dereference", "L"),
    ("terse", "t")]).withValues [("format", "c"), ("printf", "printf")]) 1 args
  if g.operands.isEmpty then refuseUse 1 "missing operand"
  eachOperand g.operands fun p => do
    match ← nodeAt (g.has "L") p with
    | .error e => failed ("cannot statx " ++ quoted p) e
    | .ok node =>
      match g.last? ["c", "printf"], g.value? "c", g.value? "printf" with
      | some "printf", _, some f => print (← statText p node true (f.length + 1) f.toList)
      | _, some f, _ => print ((← statText p node false (f.length + 1) f.toList) ++ "\n")
      | _, _, _ => print ("  File: " ++ p ++ "\n")
      return true

end TidyTree.Tool
