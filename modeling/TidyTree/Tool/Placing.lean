/-
TidyTree.Tool.Placing — tools that put files in their places.
-/
import TidyTree.Tool.Files

namespace TidyTree.Tool

open Shell

/-- Makes a directory with all that are above it. -/
def makePath (verbose : Bool) (path : String) : Act Bool := do
  let rec go : List String → Act Bool
    | [] => return true
    | q :: qs => do
      if ← isDirectory q then go qs
      else
        match ← change FileSystem.makeDirectory q with
        | .ok _ =>
          if verbose then print ((← get).name ++ ": creating directory " ++ quoted q ++ "\n")
          go qs
        | .error e => failed ("cannot create directory " ++ quoted q) e
  go (FileSystem.stepPaths path)

/-- Copies a file to its place with a mode. -/
def installFile (mode : Option (List ModeChange)) (verbose : Bool) (source target : String) :
    Act Bool := do
  match ← resolve source with
  | .error e => failed ("cannot stat " ++ quoted source) e
  | .ok (.directory _ _ _) =>
    complain ("omitting directory " ++ quoted source)
    return false
  | .ok .special =>
    complain ("cannot open " ++ quoted source ++ " for reading")
    return false
  | .ok (.file id) =>
    if (← fileAt? target) = some id then
      complain (quoted source ++ " and " ++ quoted target ++ " are the same file")
      return false
    else
      let data := (← files).data id
      let wanted := match mode with
        | some changes => applyChanges changes false 0 0
        | none => 0o755
      match ← entryAt target with
      | .ok (.leaf _) => let _ ← change FileSystem.unlink target
      | _ => pure ()
      let installed := { data with mode := wanted }
      match ← change (fun fs q => fs.modifyFile q installed fun d => d) target with
      | .ok _ =>
        if verbose then print (quoted source ++ " -> " ++ quoted target ++ "\n")
        return true
      | .error e => failed ("cannot create regular file " ++ quoted target) e

/-- Copies files to their places, or makes directories. -/
def install (args : List String) : Act Nat := do
  let table := (((OptionTable.letters "bcCdDpsTvZ" "gmotS").withFlags [("compare", "C"),
    ("directory", "d"), ("no-target-directory", "T"), ("verbose", "v"), ("strip", "s"),
    ("preserve-timestamps", "p")]).withValues [("mode", "m"), ("owner", "o"), ("group", "g"),
    ("target-directory", "t"), ("suffix", "S")])
  let g ← given table 1 args
  let mode ← match g.value? "m" with
    | none => pure none
    | some m =>
      match modeChanges? m with
      | some changes => pure (some changes)
      | none => refuse 1 ("invalid mode " ++ quoted m)
  if g.has "d" then
    if g.operands.isEmpty then refuseUse 1 "missing file operand"
    eachOperand g.operands (makePath (g.has "v"))
  else
    match g.value? "t" with
    | some directory => if g.has "D" then let _ ← makePath (g.has "v") directory
    | none => pure ()
    let pairs ← match g.value? "t", g.operands with
      | none, [a, b] =>
        if g.has "D" ∧ ¬ (← isDirectory b) then
          let _ ← makePath (g.has "v") (parentPath b)
        sourcesAndTarget { g with operands := [a, b] }
      | _, _ => sourcesAndTarget g
    let bad ← pairs.filterM fun (source, target) =>
      return !(← installFile mode (g.has "v") source target)
    return if bad.isEmpty then 0 else 1

/-- Makes a second entry for a file. -/
def link (args : List String) : Act Nat := do
  let g ← given (.letters "" "") 1 args
  match g.operands with
  | [] => refuseUse 1 "missing operand"
  | [a] => refuseUse 1 ("missing operand after " ++ quoted a)
  | [a, b] =>
    match ← change (fun fs q => fs.hardLink (Text.widen a) q) b with
    | .ok _ => return 0
    | .error e =>
      refuse 1 ("cannot create link " ++ quoted b ++ " to " ++ quoted a ++ ": " ++ e.text)
  | _ :: _ :: extra :: _ => refuseUse 1 ("extra operand " ++ quoted extra)

/-- Removes an entry. -/
def unlink (args : List String) : Act Nat := do
  let g ← given (.letters "" "") 1 args
  match g.operands with
  | [] => refuseUse 1 "missing operand"
  | [a] =>
    match ← change FileSystem.unlink a with
    | .ok _ => return 0
    | .error e => refuse 1 ("cannot unlink " ++ quoted a ++ ": " ++ e.text)
  | _ :: extra :: _ => refuseUse 1 ("extra operand " ++ quoted extra)

end TidyTree.Tool
