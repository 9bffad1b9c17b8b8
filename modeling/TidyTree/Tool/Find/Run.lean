/-
TidyTree.Tool.Find.Run — going through trees.

Entries are visited one after the other; what is still to be visited
stands in a list, so that going down a tree is going on with a longer
list.
-/
import TidyTree.Tool.Find.Plan

namespace TidyTree.Tool.Find

open Shell

/-! ## 1. Entries -/

/-- An entry that is visited. -/
structure Entry where
  /-- The path that was given, and where the entry is below it. -/
  start : String
  path : String
  depth : Nat
  node : Node

/-- What has come of a search so far. -/
structure Progress where
  /-- Whether the entry that was visited last is not gone into. -/
  pruned : Bool
  quits : Bool
  status : Nat
  /-- The paths that wait for commands, by the numbers of the actions, the last path first. -/
  gathered : List (Nat × List String × List String)

/-- An action while entries are visited. -/
abbrev Visit := StateT Progress Act

/-- Complains, which shows in the status. -/
def trouble (text : String) : Visit Unit := do
  complain text
  modify fun p => { p with status := 1 }

/-- How many links lead to an entry. -/
def linkCount : Node → Nat
  | .dir _ inside =>
    let rec below : Listing → Nat
      | .nil => 2
      | .leaf _ _ rest => below rest
      | .dir _ _ _ rest => below rest + 1
    below inside
  | .leaf _ => 1

/-- The kind of an entry as a letter. -/
def kindIn (n : Node) : Char := if kindLetter n = '-' then 'f' else kindLetter n

/-- Whether an entry passes a test. -/
def EntryTest.passes (following : Following) (e : Entry) : EntryTest → Act Bool
  | named whole fold glob =>
    return fits glob (folded fold (if whole then e.path else lastComponent e.path)).toList
  | linked fold glob =>
    match e.node with
    | .leaf (.link t) => return fits glob (folded fold (Text.narrow t)).toList
    | _ => return false
  | written fold r =>
    let x : Subject := ⟨e.path.toList.toArray, fold, false⟩
    return (r.ends x r.refersBack ⟨0, []⟩).any fun h => h.place = x.text.size
  | kind opposite letters => do
    if ¬ opposite then return letters.contains (kindIn e.node)
    match ← nodeAt (following ≠ .always) e.path with
    | .ok n => return letters.contains (kindIn n)
    | .error _ => return letters.contains (kindIn e.node)
  | empty =>
    match e.node with
    | .dir _ inside => return inside.isEmpty
    | .leaf (.file id) => return ((← files).data id).bytes.size = 0
    | _ => return false
  | size b unit => do
    let (n, _) ← sizeAndMode e.node
    return b.admits ((n + unit - 1) / unit)
  | mode wanted bits => do
    let (_, m) ← sizeAndMode e.node
    return match wanted with
      | .exactly => m &&& allModeBits = bits
      | .all => m &&& bits = bits
      | .some => m &&& bits ≠ 0
  | links b => return b.admits (linkCount e.node)
  | owner b => return b.admits 0
  | age minutes b =>
    return match b.order with
      | .eq => b.value = if minutes then 1 else 0
      | .lt => b.value ≠ 0
      | .gt => false
  | sameAs path => do
    let fs ← files
    match e.node, ← nodeAt (following ≠ .never) path with
    | .leaf (.file i), .ok (.leaf (.file j)) => return i = j
    | .dir _ _, .ok (.dir _ _) => sameEntry e.path path
    | .leaf _, .ok (.leaf _) =>
      return (fs.locate (Text.widen e.path)).toOption = (fs.locate (Text.widen path)).toOption
    | _, _ => return false
  | holds operator => fileHolds operator e.path
  | always answer => return answer

/-! ## 2. Printing -/

/-- Writes a text to an opening, or prints it. -/
def writeOut (out : Option Nat) (text : String) : Act Unit := do
  match out with
  | none => print text
  | some n =>
    match (← get).world.write n text with
    | .ok world => modify fun m => { m with world }
    | .error _ => pure ()

/-- The directory that an entry is in, as its path shows it. -/
def shownParent (path : String) : String :=
  let front := (path.toList.reverse.dropWhile (· = '/')).dropWhile (· ≠ '/')
  match front with
  | [] => "."
  | _ :: cs => String.ofList cs.reverse

/-- The path of an entry without the path that was given. -/
def belowStart (e : Entry) : String :=
  String.ofList ((e.path.toList.drop e.start.length).dropWhile (· = '/'))

/-- What a letter in a layout stands for. -/
def layoutLetter? (e : Entry) (letter : Char) : Act (Option String) := do
  let (size, mode) ← sizeAndMode e.node
  let base := lastComponent e.path
  return match letter with
    | 'p' => some e.path
    | 'f' => some (if e.depth = 0 ∧ Path.endsInSlash e.path then base ++ "/" else base)
    | 'h' => some (shownParent e.path)
    | 'P' => some (belowStart e)
    | 'H' => some e.start
    | 'd' => some (toString e.depth)
    | 's' => some (toString size)
    | 'b' => some (toString ((size + 4095) / 4096 * 8))
    | 'k' => some (toString ((size + 4095) / 4096 * 4))
    | 'm' => some (octalText 1 mode)
    | 'M' => some (modeText (kindLetter e.node) mode)
    | 'y' | 'Y' => some (kindIn e.node).toString
    | 'l' =>
      match e.node with
      | .leaf (.link t) => some (Text.narrow t)
      | _ => some ""
    | 'n' => some (toString (linkCount e.node))
    | 'u' | 'g' => some "root"
    | 'U' | 'G' | 'D' | 'i' => some "0"
    | 'F' => some "overlay"
    | 'S' => some "1"
    | _ => none

/-- Writes an entry as a layout says. -/
def writeLayout (e : Entry) (out : Option Nat) : (fuel : Nat) → List Char → Act Unit
  | 0, _ => pure ()
  | _ + 1, [] => pure ()
  | fuel + 1, '\\' :: cs => do
    match cs with
    | [] =>
      complain "warning: escape \x60\\' followed by nothing at all"
      writeOut out "\\"
    | 'c' :: _ => pure ()
    | c :: rest =>
      let known := [('a', '\x07'), ('b', '\x08'), ('f', '\x0c'), ('n', '\n'), ('r', '\r'),
        ('t', '\t'), ('v', '\x0b'), ('\\', '\\')]
      let ds := (cs.take 3).takeWhile isOctal
      if ¬ ds.isEmpty then
        writeOut out (Char.ofNat (octalNumber ds % 256)).toString
        writeLayout e out fuel (cs.drop ds.length)
      else
        match known.lookup c with
        | some d =>
          writeOut out d.toString
          writeLayout e out fuel rest
        | none =>
          complain ("warning: unrecognized escape \x60\\" ++ c.toString ++ "'")
          writeOut out ("\\" ++ c.toString)
          writeLayout e out fuel rest
  | fuel + 1, '%' :: '%' :: cs => do
    writeOut out "%"
    writeLayout e out fuel cs
  | fuel + 1, '%' :: cs => do
    let (w, rest) := writtenSpec cs
    match rest with
    | [] => refuse 1 "error: % at end of format string"
    | letter :: rest =>
      match ← layoutLetter? e letter with
      | some t =>
        writeOut out (Spec.text (w.toSpec 0 0) t)
        writeLayout e out fuel rest
      | none =>
        let all := String.ofList (cs.take (cs.length - rest.length))
        complain ("warning: unrecognized format directive \x60%" ++ all ++ "'")
        writeOut out ("%" ++ all)
        writeLayout e out fuel rest
  | fuel + 1, c :: cs => do
    writeOut out c.toString
    writeLayout e out fuel cs

/-! ## 3. Actions -/

/-- Runs a command; gives whether it succeeded. -/
def runCommand (perform : Performer) (command : List String) : Act Bool := do
  match command with
  | [] => return false
  | name :: args =>
    match ← runProgram perform name args with
    | .ok (.exited 0) => return true
    | .ok _ => return false
    | .error e =>
      complain (quoted name ++ ": " ++ e.text)
      return false

/-- Runs a command in the directory of an entry. -/
def runWithin (perform : Performer) (directory : String) (command : List String) : Act Bool := do
  let here := (← files).workingDirectory
  match ← resolve directory with
  | .ok (.directory place _ _) =>
    setFiles { ← files with workingDirectory := place }
    let succeeded ← runCommand perform command
    setFiles { ← files with workingDirectory := here }
    return succeeded
  | _ => return false

/-- Asks whether a command is to be run, and reads the answer. -/
def isAllowed (command : List String) (path : String) : Act Bool := do
  say ("< " ++ command.headD "" ++ " ... " ++ path ++ " > ? ")
  let left ← lookAhead 0
  let line := left.toList.takeWhile (· ≠ '\n')
  let rec pass : Nat → Act Unit
    | 0 => pure ()
    | n + 1 => do
      let _ ← readByte? 0
      pass n
  pass (line.length + 1)
  return line.head? = some 'y' || line.head? = some 'Y'

/-- Runs the command that was gathered for. -/
def runGathered (perform : Performer) (command paths : List String) : Visit Unit := do
  if ¬ paths.isEmpty then
    let succeeded ← runCommand perform (command ++ paths.reverse)
    if ¬ succeeded then modify fun p => { p with status := 1 }

/-- Does something with an entry; gives whether that succeeded. -/
def EntryAction.carryOut (perform : Performer) (plan : Plan) (e : Entry) :
    EntryAction → Visit Bool
  | print ending out => do
    writeOut out (e.path ++ ending)
    return true
  | layout format out => do
    writeLayout e out (format.length + 1) format
    return true
  | run command within asks => do
    let parent := shownParent e.path
    let shownPath := if ¬ within then e.path
      else if lastComponent e.path = "/" then "/" else "./" ++ lastComponent e.path
    let command := command.map fun w => withReplaced w "\x7b\x7d" shownPath
    let allowed ← if asks then isAllowed command e.path else pure true
    if ¬ allowed then return false
    else if within then runWithin perform (if parent = "" then "/" else parent) command
    else runCommand perform command
  | gather number command => do
    let waiting := (((← get).gathered.lookup number).map Prod.snd).getD []
    let others := (← get).gathered.filter fun g => g.1 ≠ number
    let size := waiting.foldl (fun n w => n + w.length + 1) 0
    if handingLimit < size + e.path.length then
      runGathered perform command waiting
      modify fun p => { p with gathered := others ++ [(number, command, [e.path])] }
    else modify fun p => { p with gathered := others ++ [(number, command, e.path :: waiting)] }
    return true
  | delete => do
    if e.path = "." then return true
    let removed ← match e.node with
      | .dir _ _ => change FileSystem.removeDirectory e.path
      | .leaf _ => change FileSystem.unlink e.path
    match removed with
    | .ok _ => return true
    | .error fault =>
      trouble ("cannot delete " ++ quoted e.path ++ ": " ++ fault.text)
      return false
  | prune => do
    if ¬ plan.contentsFirst then modify fun p => { p with pruned := true }
    return true
  | quit => do
    modify fun p => { p with quits := true }
    return true

/-- Whether a condition holds for an entry; its actions are carried out on the way. -/
def Condition.holds (perform : Performer) (plan : Plan) (e : Entry) : Condition → Visit Bool
  | test t => t.passes plan.following e
  | action a => a.carryOut perform plan e
  | negated c => return !(← c.holds perform plan e)
  | both a b => do
    let first ← a.holds perform plan e
    if first ∧ ¬ (← get).quits then b.holds perform plan e else return false
  | either a b => do
    let first ← a.holds perform plan e
    if first ∨ (← get).quits then return first else b.holds perform plan e
  | inTurn a b => do
    let first ← a.holds perform plan e
    if (← get).quits then return first else b.holds perform plan e

/-! ## 4. Going through trees -/

/-- What is still to be visited: an entry that was not looked at, or a directory whose entries come
first.  Above an entry are the places of directories, with the paths on which they were reached. -/
inductive Pending where
  | arriving (start path : String) (depth : Nat) (above : List (List String × String))
  | leaving (e : Entry)

/-- Visits an entry. -/
def visit (perform : Performer) (plan : Plan) (e : Entry) : Visit Unit := do
  modify fun p => { p with pruned := false }
  if plan.least ≤ e.depth then
    let _ ← plan.condition.holds perform plan e

/-- The node at a path, and for a directory that was reached before, where that was. -/
def look (plan : Plan) (path : String) (depth : Nat) (above : List (List String × String)) :
    Act (Except Errno (Node × List String × Option String)) := do
  let follows := plan.following = .always ∨ plan.following = .starts ∧ depth = 0
  let node ← match ← nodeAt follows path with
    | .ok n => pure (.ok n)
    | .error _ => entryAt path
  match node, ← resolve path with
  | .ok (.dir fault inside), .ok (.directory place _ _) =>
    return .ok (.dir fault inside, place, above.lookup place)
  | .ok n, _ => return .ok (n, [], none)
  | .error e, _ => return .error e

/-- Visits all that is still to be visited. -/
def visitAll (perform : Performer) (plan : Plan) : (fuel : Nat) → List Pending → Visit Unit
  | 0, _ => pure ()
  | _ + 1, [] => pure ()
  | fuel + 1, .leaving e :: rest => do
    let node := (← entryAt e.path).toOption.getD e.node
    visit perform plan (match node with
      | .dir _ _ => { e with node }
      | .leaf _ => e)
    if ¬ (← get).quits then visitAll perform plan fuel rest
  | fuel + 1, .arriving start path depth above :: rest => do
    match ← look plan path depth above with
    | .error e =>
      trouble (quoted path ++ ": " ++ e.text)
      visitAll perform plan fuel rest
    | .ok (_, _, some reached) =>
      trouble ("File system loop detected; " ++ quoted path ++
        " is part of the same file system loop as " ++ quoted reached ++ ".")
      visitAll perform plan fuel rest
    | .ok (node, place, none) =>
      let e : Entry := ⟨start, path, depth, node⟩
      match node with
      | .leaf _ =>
        visit perform plan e
        if ¬ (← get).quits then visitAll perform plan fuel rest
      | .dir fault _ =>
        if ¬ plan.contentsFirst then visit perform plan e
        if ¬ (← get).quits then
          let enters := ¬ (← get).pruned ∧ plan.most.all (depth < ·)
          match fault with
          | some f => if enters then trouble (quoted path ++ ": " ++ f.text)
          | none => pure ()
          let names ← if enters then entryNames path else pure []
          let below := names.map fun n =>
            Pending.arriving start (inside path n) (depth + 1) ((place, path) :: above)
          let after := if plan.contentsFirst then [.leaving e] else []
          visitAll perform plan fuel (below ++ after ++ rest)

/-- How many visits there are at most. -/
def visitLimit : Nat := 1000000

/-- Looks for entries in trees. -/
def find (perform : Performer) (args : List String) : Act Nat := do
  let plan ← readPlan args
  let work : Visit Unit := do
    visitAll perform plan visitLimit (plan.starts.map fun s => .arriving s s 0 [])
    (← get).gathered.forM fun (_, command, paths) => runGathered perform command paths
  let (_, p) ← work.run ⟨false, false, 0, []⟩
  return p.status

end TidyTree.Tool.Find
