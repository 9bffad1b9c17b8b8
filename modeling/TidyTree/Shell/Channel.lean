/-
TidyTree.Shell.Channel — what descriptors lead to.

A file that is open has a place at which it is read or written next.
Processes that have got a descriptor from one another share that place,
so openings are kept in one table, and a descriptor is a number in it.
`World` is all that processes have in common.
-/
import TidyTree.FileSystem.Edit
import TidyTree.Formatter
import TidyTree.Text.Bytes

namespace TidyTree.Shell

/-! ## 1. Openings -/

/-- What can be opened. -/
inductive Channel where
  /-- A stream that the first process has got. -/
  | stream (s : Stream)
  | file (id : Nat)
  | directory (place : List String)
  /-- What was written and can be read. -/
  | pipe (content : ByteArray)
  /-- The device that swallows everything and holds nothing. -/
  | null
  /-- The device that holds zeros without end. -/
  | zero
  /-- The device that takes nothing. -/
  | full

/-- An opened channel with the place at which it is read or written next. -/
structure Opening where
  channel : Channel
  place : Nat
  reads : Bool
  writes : Bool
  appends : Bool

/-- What all processes share. -/
structure World where
  files : FileSystem
  openings : Array Opening
  /-- What went to the streams of the first process, the last first. -/
  printed : List (Stream × String)
  /-- The number of the process that was started last. -/
  lastProcess : Nat
  /-- The signals that were sent to processes and have not reached them. -/
  sent : List (Nat × Nat)
  /-- The time since the start, in thousandths of a second. -/
  clock : Nat

namespace World

/-- Adds an opening; gives its number too. -/
def add (w : World) (o : Opening) : World × Nat :=
  ({ w with openings := w.openings.push o }, w.openings.size)

/-- Changes an opening. -/
def update (w : World) (n : Nat) (f : Opening → Opening) : World :=
  { w with openings := w.openings.modify n f }

/-! ## 2. Reading -/

/-- How many of the zeros that have no end are read at once. -/
def zerosAtOnce : Nat := 1048576

/-- The bytes that an opening still holds; none if it cannot be read. -/
def remaining (w : World) (o : Opening) : Except Errno ByteArray :=
  if o.reads = false then .error ⟨9⟩
  else
    match o.channel with
    | .file id =>
      let b := (w.files.data id).bytes
      .ok (b.extract o.place b.size)
    | .pipe b => .ok (b.extract o.place b.size)
    | .directory _ => .error .isDirectory
    | .zero => .ok ⟨Array.replicate zerosAtOnce 0⟩
    | _ => .ok .empty

/-- Goes on reading behind some bytes more. -/
def advance (w : World) (n bytes : Nat) : World :=
  w.update n fun o => { o with place := o.place + bytes }

/-! ## 3. Writing -/

/-- The bytes with new ones from a place on; a gap before them is filled with zeros. -/
def overwrite (old : ByteArray) (place : Nat) (new : ByteArray) : ByteArray :=
  let gap := place - old.size
  let front := (List.range gap).foldl (fun b _ => b.push 0) (old.extract 0 place)
  front ++ new ++ old.extract (place + new.size) old.size

/-- Writes to an opening. -/
def write (w : World) (n : Nat) (text : String) : Except Errno World :=
  match w.openings[n]? with
  | none => .error ⟨9⟩
  | some o =>
    if o.writes = false then .error ⟨9⟩
    else if text = "" then .ok w
    else
      match o.channel with
      | .stream s => .ok { w with printed := (s, text) :: w.printed }
      | .file id =>
        let new := Text.toBytes text
        let d := w.files.data id
        let place := if o.appends then d.bytes.size else o.place
        let d := { d with bytes := overwrite d.bytes place new, native := none }
        let w := w.update n fun o => { o with place := place + new.size }
        .ok { w with files := w.files.setData id d }
      | .pipe b => .ok (w.update n fun o => { o with channel := .pipe (b ++ Text.toBytes text) })
      | .full => .error ⟨28⟩
      | _ => .ok w

end World

end TidyTree.Shell
