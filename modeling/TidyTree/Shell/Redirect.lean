/-
TidyTree.Shell.Redirect — opening files and carrying out redirections.

A redirection makes a descriptor lead somewhere else.  What the
descriptors led to before is given back, so that it can be restored
after the command.
-/
import TidyTree.Shell.Expand

namespace TidyTree.Shell

/-! ## 1. Opening -/

/-- How a file is opened. -/
structure Opens where
  reads : Bool
  writes : Bool
  /-- Makes the file if it is missing. -/
  creates : Bool
  /-- Takes away what the file holds. -/
  truncates : Bool
  appends : Bool
  /-- Refuses a regular file that is there already. -/
  exclusive : Bool

namespace Opens

/-- To read. -/
def read : Opens := ⟨true, false, false, false, false, false⟩

/-- To write from the beginning. -/
def write : Opens := ⟨false, true, true, true, false, false⟩

/-- To write at the end. -/
def append : Opens := ⟨false, true, true, false, true, false⟩

/-- To read and write what is there. -/
def readWrite : Opens := ⟨true, true, true, false, false, false⟩

end Opens

/-- The names of descriptors as files, with the descriptors. -/
def descriptorFiles : List (String × Nat) :=
  [("/dev/stdin", 0), ("/dev/stdout", 1), ("/dev/stderr", 2)] ++
    (List.range 10).map fun n => ("/dev/fd/" ++ toString n, n)

/-- The channel of a file that is neither regular nor a directory. -/
def deviceAt (path : String) : Except Errno Channel :=
  match (Path.splitLast path).2 with
  | "zero" | "urandom" | "random" => .ok .zero
  | "full" => .ok .full
  | "tty" => .error ⟨6⟩
  | _ => .ok .null

/-- Opens the file at a path; gives the number of the opening. -/
def openFile (path : String) (o : Opens) : Act (Except Errno Nat) := do
  let m ← get
  let fs := m.world.files
  let path := Text.widen path
  let opened (channel : Channel) : Act (Except Errno Nat) := do
    return .ok (← addOpening ⟨channel, 0, o.reads, o.writes, o.appends⟩)
  match (descriptorFiles.lookup path).bind m.opening? with
  | some n => return .ok n
  | none =>
    match fs.resolve path with
    | .ok (.file id) =>
      if Path.endsInSlash path then return .error .notDirectory
      else if o.exclusive then return .error .alreadyThere
      else
        if o.truncates then
          setFiles (fs.setData id { fs.data id with bytes := .empty, native := none })
        opened (.file id)
    | .ok (.directory place _ _) =>
      if o.writes then return .error .isDirectory else opened (.directory place)
    | .ok .special =>
      match deviceAt path with
      | .ok channel => opened channel
      | .error e => return .error e
    | .error e =>
      if e = .noEntry ∧ o.creates then
        match fs.newSpot FileSystem.linkLimit fs.workingDirectory path with
        | .error e => return .error e
        | .ok spot =>
          setFiles (fs.addFile spot ⟨.empty, 0o666 &&& (0o777 ^^^ m.mask), none⟩)
          opened (.file fs.contents.length)
      else return .error e

/-! ## 2. Redirections -/

/-- What the shell says about a file that it cannot open. -/
def openComplaint (creating : Bool) (path : String) (e : Errno) : String :=
  let what :=
    if e = .noEntry ∨ e = .notDirectory then
      if creating then "Directory nonexistent" else "No such file"
    else e.text
  (if creating then "cannot create " else "cannot open ") ++ path ++ ": " ++ what

/-- Makes a descriptor lead to a file. -/
def redirectToFile (descriptor : Nat) (path : String) (o : Opens) : Act Bool := do
  match ← openFile path o with
  | .ok n => setDescriptor descriptor (some n); return true
  | .error e => warn (openComplaint o.creates path e); return false

/-- A redirection whose word is expanded. -/
structure Prepared where
  descriptor : Nat
  action : Redirection
  word : String

/-- Complains about a descriptor; what counts as its place is how far the script was read. -/
def failAsRead {α : Type} (text : String) : Act α := do
  modify fun m => { m with line := m.lineRead }
  fail text

/-- Expands the word of a redirection; one that copies needs a digit or a dash. -/
def prepare (perform : Performer) : Redirect → Act Prepared
  | .make descriptor action word => do
    match action with
    | .document _ => return ⟨descriptor, action, ""⟩
    | .copyInput | .copyOutput =>
      let w := plain (← expandWord perform word)
      match w.toList with
      | [c] =>
        if c.isDigit ∨ c = '-' then return ⟨descriptor, action, w⟩
        else failAsRead "Syntax error: Bad fd number"
      | _ => failAsRead "Syntax error: Bad fd number"
    | _ => return ⟨descriptor, action, plain (← expandWord perform word)⟩

/-- Makes a descriptor lead where another one does, or nowhere. -/
def redirectToCopy (descriptor : Nat) (word : String) : Act Bool := do
  if word = "-" then setDescriptor descriptor none; return true
  else
    match (← get).opening? ((word.toNat?).getD 0) with
    | some n => setDescriptor descriptor (some n); return true
    | none => warn (word ++ ": Bad file descriptor"); return false

/-- Carries out a redirection; the answer says whether it was possible. -/
def redirectOne (perform : Performer) (r : Prepared) : Act Bool := do
  match r.action with
  | .read => redirectToFile r.descriptor r.word .read
  | .readWrite => redirectToFile r.descriptor r.word .readWrite
  | .append => redirectToFile r.descriptor r.word .append
  | .overwrite => redirectToFile r.descriptor r.word .write
  | .write =>
    redirectToFile r.descriptor r.word { Opens.write with exclusive := (← get).has 'C' }
  | .copyInput | .copyOutput => redirectToCopy r.descriptor r.word
  | .document number =>
    let body := ((← get).documents.lookup number).getD []
    match ← attempt (expandDocument perform body) with
    | .ok text =>
      let n ← addOpening ⟨.pipe (Text.toBytes text), 0, true, true, false⟩
      setDescriptor r.descriptor (some n)
      return true
    | .error .failing => return false
    | .error e => throw e

/-- Carries out redirections up to the first one that is not possible; the answer says whether all
were. -/
def redirectAll (perform : Performer) : List Prepared → Act Bool
  | [] => return true
  | r :: rs => do if ← redirectOne perform r then redirectAll perform rs else return false

/-- Makes the descriptors of redirections lead where they did before. -/
def restoreDescriptors (before : List (Nat × Nat)) (rs : List Prepared) : Act Unit :=
  rs.forM fun r => setDescriptor r.descriptor (before.lookup r.descriptor)

end TidyTree.Shell
