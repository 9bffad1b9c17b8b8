/-
TidyTree.Shell.Run — carrying out scripts.

`carryOut` does one command, with a parameter for what carries out the
commands inside it.  A failure ends the shell under the option `e` if it
is not tested.  Commands on both sides of a pipe, in parentheses and in
substitutions are processes of their own, done one after the other.
-/
import TidyTree.Shell.Builtin.Control

namespace TidyTree.Shell

/-! ## 1. Ends -/

/-- Does something up to the end of the process, where what was said for the end is carried out. -/
def upToEnd (perform : Performer) (a : Act Unit) : Act Unit := do
  match ← attempt a with
  | .error (.killed s) => throw (.killed s)
  | .error .exhausted => throw .exhausted
  | _ =>
    let m ← get
    let status := m.settled.getD m.status
    set { m with
      status
      settled := some status
      loopDepth := 0
      traps := m.traps.filter fun t => t.1 ≠ 0 }
    match (m.traps.lookup 0).filter (· ≠ "") with
    | none => pure ()
    | some action =>
      match ← attempt (perform (.source action false false)) with
      | .error (.killed s) => throw (.killed s)
      | .error .exhausted => throw .exhausted
      | .error .failing => pure ()
      | _ => modify fun m => { m with status := m.settled.getD status }

/-- Does something and then something else, also if the first is left. -/
def cleanly (a after : Act Unit) : Act Unit := do
  match ← attempt a with
  | .ok _ => after
  | .error e => after; throw e

/-! ## 2. Simple commands -/

/-- Remembers the line of a command. -/
def atLine (line : Nat) : Act Unit := modify fun m => { m with line }

/-- What the words of a command give. -/
structure Called where
  words : List String
  /-- Whether the name may stand for a function. -/
  functions : Bool
  /-- Whether the first name is that of a special command; none without words. -/
  special : Option Bool
  searchPath : Option String

/-- Expands words up to the first one that gives something. -/
def firstWords (perform : Performer) : List Word → Act (List String × List Word)
  | [] => return ([], [])
  | w :: ws => do
    match ← expandFields perform w.parts with
    | [] => firstWords perform ws
    | found => return (found, ws)

/-- Expands a word; one that is an assignment gives one word if those are asked for. -/
def expandArgument (perform : Performer) (assigning : Bool) (w : Word) : Act (List String) := do
  if assigning ∧ (assignment? w.parts).isSome then return [← expandValue perform w.parts]
  else expandFields perform w.parts

/-- Goes behind the options of the command that runs a command; none if it has a task of its own. -/
def behindCommand (perform : Performer) : (fuel : Nat) → (standard : Bool) → List String →
    List Word → Act (Option (List String × List Word × Bool))
  | 0, _, _, _ => return none
  | fuel + 1, standard, [], ws => do
    match ← firstWords perform ws with
    | ([], _) => return none
    | (found, ws) => behindCommand perform fuel standard found ws
  | fuel + 1, standard, a :: found, ws => do
    match a.toList with
    | ['-', '-'] =>
      match found with
      | [] =>
        match ← firstWords perform ws with
        | ([], _) => return none
        | (found, ws) => return some (found, ws, standard)
      | _ => return some (found, ws, standard)
    | '-' :: c :: cs =>
      if (c :: cs).all (· = 'p') then behindCommand perform fuel true found ws else return none
    | _ => return some (a :: found, ws, standard)

/-- Expands the words of a command as far as is needed to know what it is; then the others. -/
def calledWords (perform : Performer) : (fuel : Nat) → Called → List Word → Act Called
  | 0, c, _ => return c
  | fuel + 1, c, ws => do
    let m ← get
    let name := c.words.headD ""
    let rest (c : Called) : Act Called := do
      let more ← ws.mapM (expandArgument perform (assigningNames.contains name))
      return { c with words := c.words ++ more.flatten }
    match m.meaning c.functions name with
    | .builtin special =>
      let c := { c with special := c.special <|> some special }
      if name = "command" then
        match ← behindCommand perform (ws.length + c.words.length + 1) false c.words.tail ws with
        | some (words, ws, standard) =>
          let searchPath := if standard then some defaultSearchPath else c.searchPath
          calledWords perform fuel { c with words, functions := false, searchPath } ws
        | none => rest c
      else rest c
    | _ => rest { c with special := c.special <|> some false }

/-- Prints what is carried out. -/
def trace (perform : Performer) (before : Option Nat) (texts : List String) : Act Unit := do
  let m ← get
  if m.has 'x' then
    let front ← match (within ((m.value? "PS4").getD "+ ").toList m.line
        (parts (fun _ => refuse "") .document)).run (.start [] [] 0) with
      | .ok (ps, _) => expandDocument perform ps
      | .error _ => pure "+ "
    let text := front ++ " ".intercalate texts ++ "\n"
    match before with
    | none => pure ()
    | some n =>
      match m.world.write n text with
      | .ok world => modify fun m => { m with world }
      | .error _ => pure ()

/-- Carries out a function. -/
def callFunction (perform : Performer) (f : Function) (args : List String) (tested : Bool) :
    Act Unit := do
  let m ← get
  set { m with
    parameters := args
    functionLine := f.line
    loopDepth := 0
    nextOption := (1, 0)
    functionDepth := m.functionDepth + 1 }
  let back : Act Unit := modify fun after => { after with
    parameters := m.parameters
    functionLine := m.functionLine
    loopDepth := m.loopDepth
    nextOption := m.nextOption
    functionDepth := m.functionDepth }
  match ← attempt (perform (.script f.body tested false)) with
  | .ok _ | .error .returning => back
  | .error e => back; throw e

/-- Carries out a command that is part of the shell. -/
def callBuiltin (perform : Performer) (c : Called) (name : String) (args : List String)
    (tested : Bool) : Act Unit := do
  let speaker := (← get).speaker
  modify fun m => { m with speaker := some name, unwritten := false }
  let back : Act Unit := modify fun m => { m with speaker, unwritten := false }
  match ← attempt (builtin perform tested name args) with
  | .ok status =>
    let failed := (← get).unwritten
    if failed then warn (name ++ ": I/O error")
    back
    setStatus (if failed then status ||| 1 else status)
  | .error .failing => back; if c.special = some true then throw .failing
  | .error e => back; throw e

/-- Starts a program, in the place of the shell if nothing follows. -/
def callProgram (perform : Performer) (c : Called) (name : String) (args : List String)
    (last : Bool) : Act Unit := do
  let m ← get
  let path := c.searchPath.getD m.searchPath
  let missing (e : Errno) (status : Nat) : Act Unit := do
    warn (name ++ ": " ++ startComplaint e)
    setStatus status
  match if name.toList.contains '/' then .ok "" else programPath m.world.files path name with
  | .error e => missing e 127
  | .ok place =>
    if c.searchPath.isNone then rememberProgram name place
    let m ← get
    match findImage m.world.files path name args with
    | .error e => missing e (startFailure e)
    | .ok image =>
      if last ∧ m.traps.all (fun t => t.2 = "") then become perform m.environment image
      else
        let ended ← spawn perform m.environment image
        reportEnd ended
        setStatus ended.status

/-- Puts a program in the place of the shell, if one is named. -/
def execCommand (perform : Performer) (name : String) (args : List String) : Act Unit := do
  let m ← get
  match findImage m.world.files m.searchPath name args with
  | .ok image => become perform m.environment image
  | .error e =>
    modify fun m => { m with speaker := some "exec" }
    warn (name ++ ": " ++ startComplaint e)
    modify fun m => { m with status := startFailure e, settled := some (startFailure e) }
    throw .exiting

/-- Carries out the words of a command. -/
def call (perform : Performer) (c : Called) (tested last : Bool) : Act Unit := do
  match c.words with
  | [] => modify fun m => { m with status := m.substituted }
  | name :: args =>
    match (← get).meaning c.functions name with
    | .builtin _ =>
      match name, args with
      | "exec", [] => setStatus 0
      | "exec", "--" :: program :: args => execCommand perform program args
      | "exec", program :: args => execCommand perform program args
      | _, _ => callBuiltin perform c name args tested
    | .function f => callFunction perform f args tested
    | .program => callProgram perform c name args last

/-- Carries out assignments; `own` says that they hold for the command only.  Gives them as
texts. -/
def carryOutAssigns (perform : Performer) (own exporting : Bool) (assigns : List Assign) :
    Act (List String) :=
  assigns.mapM fun
    | .make name word => do
      let value ← expandValue perform word
      if own then makeLocal true (name ++ "=" ++ value)
      else if exporting then assignExported name value
      else assign name value
      return name ++ "=" ++ value

/-- Carries out assignments, words and redirections. -/
def simpleCommand (perform : Performer) (line : Nat) (assigns : List Assign) (words : List Word)
    (redirects : List Redirect) (tested last : Bool) : Act Unit := do
  atLine line
  modify fun m => { m with substituted := 0 }
  let (first, others) ← firstWords perform words
  let c : Called := ⟨first, true, none, none⟩
  let c ← if first.isEmpty then pure c else calledWords perform (words.length + 1) c others
  let isExec := c.words.head? = some "exec"
  let own := c.special = some false
  if own then modify fun m => { m with locals := [] :: m.locals }
  let before := (← get).descriptors
  let errors := before.lookup 2
  let undo : Act Unit := if own then endLocals else pure ()
  let prepared ← redirects.mapM (prepare perform)
  let body : Act Unit := do
    if ← redirectAll perform prepared then
      let texts ← carryOutAssigns perform own (isExec && c.words.length > 1) assigns
      trace perform errors (texts ++ c.words)
      call perform c tested last
    else
      setStatus 2
      if c.special = some true then throw .failing
  cleanly body do
    if ¬ isExec then restoreDescriptors before prepared
    undo

/-! ## 3. Processes -/

/-- Carries out a command in a process of its own. -/
def apart (perform : Performer) (s : Script) (tested : Bool) (change : Machine → Machine) :
    Act End :=
  inProcess (fun m => change m.subshell) (perform (.part s tested))

/-- A machine whose descriptor leads to an opening. -/
def Machine.lead (m : Machine) (descriptor n : Nat) : Machine :=
  { m with descriptors := (descriptor, n) :: m.descriptors.filter fun d => d.1 ≠ descriptor }

/-- Carries out the commands of a pipeline; `input` is what the first of them reads. -/
def pipe (perform : Performer) (tested : Bool) : (input : Option Nat) → List Script → Act Unit
  | _, [] => pure ()
  | input, [s] => do
    let change (m : Machine) : Machine := match input with
      | some n => m.lead 0 n
      | none => m
    let ended ← apart perform s tested change
    reportEnd ended
    setStatus ended.status
  | input, s :: rest => do
    let n ← addOpening ⟨.pipe .empty, 0, true, true, false⟩
    let change (m : Machine) : Machine :=
      (match input with
        | some n => m.lead 0 n
        | none => m).lead 1 n
    let ended ← apart perform s tested change
    reportEnd ended
    pipe perform tested (some n) rest

/-- Carries out a command that is not waited for. -/
def inBackground (perform : Performer) (s : Script) : Act Unit := do
  let clock := (← get).world.clock
  let n ← addOpening ⟨.null, 0, true, false, false⟩
  let number := (← get).world.lastProcess + 1
  let place := (← get).jobPlace
  let ended ← apart perform s false fun m => m.lead 0 n
  modify fun m => { m with
    world := { m.world with clock }
    lastBackground := some number
    jobs := ⟨number, place, ended, m.world.clock, false⟩ :: m.jobs
    status := 0 }

/-! ## 4. Loops -/

/-- What a round of a loop says about the next one. -/
inductive After where
  | goOn
  | stop
deriving DecidableEq

/-- Does a round of a loop; a wish to leave loops ends here if it is about this one. -/
def round (a : Act After) : Act After := do
  match ← attempt a with
  | .ok r => return r
  | .error (.loops again levels) =>
    if levels > 1 then throw (.loops again (levels - 1))
    else return if again then .goOn else .stop
  | .error e => throw e

/-- Does something that is a loop. -/
def inLoop (a : Act Unit) : Act Unit := do
  modify fun m => { m with loopDepth := m.loopDepth + 1 }
  cleanly a (modify fun m => { m with loopDepth := m.loopDepth - 1 })

/-- Repeats a command as long as a condition holds, or until it does. -/
def repeatWhile (perform : Performer) (untilTrue : Bool) (condition body : Script)
    (tested : Bool) : Act Unit :=
  inLoop do
    let step (status : Nat) : Act (Nat ⊕ Unit) := do
      let next ← round do
        perform (.script condition true false)
        let succeeded : Bool := (← get).status = 0
        if succeeded = untilTrue then
          setStatus status
          return .stop
        perform (.script body tested false)
        return .goOn
      match next with
      | .goOn => return .inl (← get).status
      | .stop => return .inr ()
    rounds step roundLimit 0

/-- Carries out a command for each of some values of a variable. -/
def forEachOf (perform : Performer) (name : String) (body : Script) (tested : Bool) :
    List String → Act Unit
  | [] => pure ()
  | value :: values => do
    let next ← round do
      assign name value
      perform (.script body tested false)
      return .goOn
    if next = .goOn then forEachOf perform name body tested values

/-- The first command that a text selects by its patterns. -/
def selected (perform : Performer) (text : String) : List Clause → Act (Option Script)
  | [] => return none
  | .make patterns body :: rest => do
    let fitting ← patterns.findM? fun p => do
      return fits (Glob.ofText (← expandWord perform p.parts)) text.toList
    if fitting.isSome then return some body else selected perform text rest

/-! ## 5. Commands -/

/-- Ends the shell if a command has failed and that is to end it. -/
def checkFailure (tested : Bool) : Act Unit := do
  let m ← get
  if m.has 'e' ∧ m.status ≠ 0 ∧ ¬ tested then
    set { m with settled := some m.status }
    throw .exiting

/-- Carries out commands one after the other. -/
def allOf (perform : Performer) (tested last : Bool) : List Script → Act Unit
  | [] => pure ()
  | [s] => perform (.script s tested last)
  | s :: ss => do
    perform (.script s tested false)
    allOf perform tested last ss

/-- Carries out a command by what it is. -/
def carryOutKind (perform : Performer) (s : Script) (tested last : Bool) : Act Unit := do
  match s with
  | .nothing => pure ()
  | .simple line assigns words redirects =>
    simpleCommand perform line assigns words redirects tested last
    checkFailure tested
  | .pipeline parts =>
    pipe perform tested none parts
    checkFailure tested
  | .background line body =>
    atLine line
    inBackground perform body
  | .negated body =>
    perform (.script body true false)
    modify fun m => { m with status := if m.status = 0 then 1 else 0 }
  | .both a b =>
    perform (.script a true false)
    if (← get).status = 0 then perform (.script b tested last)
  | .either a b =>
    perform (.script a true false)
    if (← get).status ≠ 0 then perform (.script b tested last)
  | .sequence parts => allOf perform tested last parts
  | .choose condition body otherwise =>
    perform (.script condition true false)
    if (← get).status = 0 then perform (.script body tested last)
    else
      match otherwise with
      | .nothing => setStatus 0
      | _ => perform (.script otherwise tested last)
  | .repeated untilTrue condition body => repeatWhile perform untilTrue condition body tested
  | .forEach line name words body =>
    atLine line
    let values ← match words with
      | some ws => do
        let found ← ws.mapM fun w => expandFields perform w.parts
        pure found.flatten
      | none => pure (← get).parameters
    if values.isEmpty then setStatus 0
    else inLoop (forEachOf perform name body tested values)
  | .select line word clauses =>
    atLine line
    let text := plain (← expandWord perform word.parts)
    match ← selected perform text clauses with
    | some .nothing | none => setStatus 0
    | some body => perform (.script body tested last)
  | .subshell line body redirects =>
    atLine line
    let prepared ← redirects.mapM (prepare perform)
    if last ∧ (← get).traps.all (fun t => t.2 = "") then
      modify Machine.subshell
      if ← redirectAll perform prepared then perform (.script body tested true)
      else setStatus 2
      throw .exiting
    else
      let ended ← inProcess Machine.subshell do
        if ← redirectAll perform prepared then perform (.part body tested)
        else setStatus 2
      reportEnd ended
      setStatus ended.status
      checkFailure tested
  | .redirected line body redirects =>
    atLine line
    let prepared ← redirects.mapM (prepare perform)
    let before := (← get).descriptors
    cleanly (do
      if ← redirectAll perform prepared then perform (.script body tested false)
      else setStatus 2) (restoreDescriptors before prepared)
  | .define line name body =>
    modify fun m => { m with
      functions := (name, ⟨body, line⟩) :: m.functions.filter fun f => f.1 ≠ name
      status := 0 }

/-- Carries out a command. -/
def carryOut (perform : Performer) (s : Script) (tested last : Bool) : Act Unit := do
  if (← get).has 'n' then return
  takeSignals perform
  carryOutKind perform s tested last
  takeSignals perform

/-! ## 6. Texts -/

/-- Reads a complete command and carries it out; the next state says whether any command was
carried out.  At the end of the text that is the answer.  With `echoing` the option `v` shows what
is read. -/
def sourceRound (perform : Performer) (echoing tested last : Bool) (state : Reader × Bool) :
    Act ((Reader × Bool) ⊕ Bool) := do
  let (reader, ran) := state
  let m ← get
  let reader := { reader with
    aliases := m.aliases, nextDocument := m.nextDocument, documents := [] }
  match readLine?.run reader with
  | .error fault =>
    modify fun m => { m with line := fault.line }
    fail fault.message
  | .ok (s, after) =>
    modify fun m => { m with
      lineRead := after.line
      documents := after.documents ++ m.documents
      nextDocument := after.nextDocument }
    if echoing ∧ m.has 'v' then
      say (String.ofList (reader.rest.take (reader.rest.length - after.rest.length)))
    match s with
    | none => return .inr ran
    | some .nothing => return .inl (after, ran)
    | some s =>
      perform (.script s tested (last && after.rest.isEmpty))
      return .inl (after, true)

/-- Carries out the commands of a text.  A text without commands succeeds. -/
def carryOutText (perform : Performer) (echoing : Bool) (text : String) (tested last : Bool) :
    Act Unit := do
  let lineRead := (← get).lineRead
  let ran ← rounds (sourceRound perform echoing tested last) roundLimit
    (.start text.toList [] 0, false)
  modify fun m => { m with lineRead }
  if ¬ ran then setStatus 0

end TidyTree.Shell
