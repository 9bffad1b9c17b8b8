/-
TidyTree.Shell.Start — the shell as a program.

Its arguments say where the commands come from: from an argument, from a
file or from the input.  What follows are the parameters.
-/
import TidyTree.Shell.Run

namespace TidyTree.Shell

/-! ## 1. The beginning -/

/-- Sets a variable at the start, where nothing is protected. -/
def presetVariable (exported : Bool) (name value : String) : Act Unit := do
  let v := ((← get).lookup name).getD ⟨none, false, false⟩
  forceVariable name { v with value := some value, exported := v.exported || exported }

/-- The variables that a shell has from the start: those it got under names that are possible, and
its own. -/
def startVariables : Act Unit := do
  let given := (← get).bindings.filter fun v => isName v.1
  modify fun m => { m with bindings := [] }
  let own : List (String × String) :=
    [("IFS", " \t\n"), ("OPTIND", "1"), ("PATH", defaultSearchPath), ("PS1", "# "), ("PS2", "> "),
      ("PS4", "+ ")]
  own.forM fun (name, value) => presetVariable false name value
  given.forM fun (name, v) => do
    if name ≠ "IFS" ∧ name ≠ "OPTIND" then presetVariable true name (v.value.getD "")
  let m ← get
  presetVariable false "PPID" (toString (m.ancestors.headD 0))
  let here := m.world.files.workingDirectory
  let known := (m.value? "PWD").filter fun p =>
    p.toList.head? = some '/' &&
      (match m.world.files.resolve (Text.widen p) with
        | .ok (.directory place _ _) => place = here
        | _ => false)
  let directory := known.getD m.physicalDirectory
  presetVariable true "PWD" directory
  modify fun m => { m with directory }

/-- Where commands come from. -/
structure Order where
  fromArgument : Bool
  fromInput : Bool

/-- Sets the options of a word, from behind its sign; gives the words that are left. -/
def startLetters (on : Bool) : List Char → List String → Order → Act (List String × Order)
  | [], rest, o => return (rest, o)
  | 'c' :: cs, rest, o => startLetters on cs rest { o with fromArgument := true }
  | 'l' :: cs, rest, o => startLetters on cs rest o
  | 'o' :: cs, rest, o => do
    match rest with
    | [] => listOptions on; startLetters on cs [] o
    | name :: rest => setNamedOption on name; startLetters on cs rest o
  | c :: cs, rest, o => do
    setOption on c
    startLetters on cs rest o

/-- Reads the options of the shell; gives what follows them. -/
def startOptions : (fuel : Nat) → List String → Order → Act (List String × Order)
  | 0, args, o => return (args, o)
  | _ + 1, [], o => return ([], o)
  | fuel + 1, a :: rest, o => do
    match a.toList with
    | ['-'] | ['-', '-'] => return (rest, o)
    | '-' :: cs =>
      let (rest, o) ← startLetters true cs rest o
      startOptions fuel rest o
    | '+' :: cs =>
      let (rest, o) ← startLetters false cs rest o
      startOptions fuel rest o
    | _ => return (a :: rest, o)

/-! ## 2. The commands -/

/-- Carries out what the input holds. -/
def runInput (perform : Performer) (text : String) : Act Unit := do
  match ← attempt (carryOutText perform true text false false) with
  | .ok _ | .error .returning => pure ()
  | .error e => throw e

/-- Carries out the shell with its arguments. -/
def runShell (perform : Performer) (args : List String) : Act Unit := do
  startVariables
  upToEnd perform do
    let (rest, order) ← startOptions (args.length + 1) args ⟨false, false⟩
    match rest with
    | [] =>
      if order.fromArgument then fail "-c requires an argument"
      modify fun m => { m with options := 's' :: m.options }
      match ← readRest 0 with
      | .ok text => runInput perform text
      | .error _ => setStatus 0
    | a :: rest =>
      if order.fromArgument then
        match rest with
        | [] => pure ()
        | name :: parameters => modify fun m => { m with name, parameters }
        match ← attempt (carryOutText perform false a false (¬ (← get).has 's')) with
        | .ok _ | .error .returning => pure ()
        | .error e => throw e
      else if (← get).has 's' then
        modify fun m => { m with parameters := a :: rest }
        match ← readRest 0 with
        | .ok text => runInput perform text
        | .error _ => setStatus 0
      else
        match ← openFile a .read with
        | .error e => fail (openComplaint false a e)
        | .ok n =>
          let m ← get
          let text := match m.world.openings[n]? with
            | some o => ((m.world.remaining o).toOption.map Text.ofBytes).getD ""
            | none => ""
          set { m with name := a, parameters := rest }
          runInput perform text

end TidyTree.Shell
