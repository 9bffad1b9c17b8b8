/-
TidyTree.Shell.Mode — changing the mode of a file.

A mode has three bits for each of the owner, the group and all others,
and three more in front of them.  A change is written as an octal number
or in letters: for whom, whether bits are added, removed or set, and
which ones.
-/
namespace TidyTree.Shell

/-! ## 1. Changes -/

/-- Which bits a change is about. -/
inductive ModeBits where
  | these (bits : Nat)
  /-- The bits of one group, for every group. -/
  | copied (bits : Nat)
  /-- The bits, and those to run a file if anyone may run it or if it is a directory. -/
  | orRun (bits : Nat)
deriving DecidableEq, Repr

/-- What is done with the bits. -/
inductive ModeAction where
  | set
  | add
  | remove
deriving DecidableEq, Repr

/-- A change of a mode; no group at all means every group, but only bits that the mask of the
process allows. -/
structure ModeChange where
  action : ModeAction
  affected : Nat
  bits : ModeBits
  /-- The bits that the change speaks of. -/
  mentioned : Nat
deriving DecidableEq, Repr

/-- All bits of a mode. -/
def allModeBits : Nat := 0o7777

/-- The bits that are not among these. -/
def otherModeBits (bits : Nat) : Nat := allModeBits ^^^ (bits &&& allModeBits)

/-! ## 2. Reading -/

/-- The bits of the groups that a letter names. -/
def groupBits? : Char → Option Nat
  | 'u' => some 0o4700
  | 'g' => some 0o2070
  | 'o' => some 0o1007
  | 'a' => some allModeBits
  | _ => none

/-- The bits of a right that a letter names. -/
def rightBits? : Char → Option Nat
  | 'r' => some 0o444
  | 'w' => some 0o222
  | 'x' => some 0o111
  | 's' => some 0o6000
  | 't' => some 0o1000
  | 'X' => some 0
  | _ => none

/-- What a sign does. -/
def modeAction? : Char → Option ModeAction
  | '=' => some .set
  | '+' => some .add
  | '-' => some .remove
  | _ => none

/-- The number that octal digits write. -/
def octalNumber (cs : List Char) : Nat := cs.foldl (fun n c => n * 8 + (c.toNat - 48)) 0

/-- Whether the character is an octal digit. -/
def isOctal (c : Char) : Bool := '0' ≤ c && c ≤ '7'

/-- Reads the changes for some groups: signs, each with rights. -/
def changesFrom (affected : Nat) : (fuel : Nat) → List Char → Option (List ModeChange × List Char)
  | 0, _ => none
  | fuel + 1, cs =>
    match cs with
    | [] => some ([], [])
    | c :: rest =>
      match modeAction? c with
      | none => some ([], cs)
      | some action =>
        let digits := rest.takeWhile isOctal
        let read : Option (ModeChange × List Char) :=
          if ¬ digits.isEmpty then
            let behind := rest.drop digits.length
            if affected ≠ 0 ∨ (behind ≠ [] ∧ behind.head? ≠ some ',') ∨
              allModeBits < octalNumber digits then none
            else some (⟨action, allModeBits, .these (octalNumber digits), allModeBits⟩, behind)
          else
            let copied : Option Nat := match rest with
              | 'u' :: _ => some 0o700
              | 'g' :: _ => some 0o070
              | 'o' :: _ => some 0o007
              | _ => none
            match copied with
            | some bits =>
              let mentioned := if affected = 0 then bits else affected &&& bits
              some (⟨action, affected, .copied bits, mentioned⟩, rest.drop 1)
            | none =>
              let rights := rest.takeWhile fun c => (rightBits? c).isSome
              let bits := rights.foldl (fun n c => n ||| (rightBits? c).getD 0) 0
              let mentioned := if affected = 0 then bits else affected &&& bits
              let kind := if rights.contains 'X' then ModeBits.orRun bits else .these bits
              some (⟨action, affected, kind, mentioned⟩, rest.drop rights.length)
        match read with
        | none => none
        | some (change, rest) =>
          (changesFrom affected fuel rest).map fun (changes, rest) => (change :: changes, rest)

/-- Reads changes in letters, separated by commas. -/
def symbolicChanges? : (fuel : Nat) → List Char → Option (List ModeChange)
  | 0, _ => none
  | fuel + 1, cs =>
    let groups := cs.takeWhile fun c => (groupBits? c).isSome
    let affected := groups.foldl (fun n c => n ||| (groupBits? c).getD 0) 0
    match changesFrom affected (cs.length + 1) (cs.drop groups.length) with
    | some (c :: changes, []) => some (c :: changes)
    | some (c :: changes, ',' :: rest) => (symbolicChanges? fuel rest).map ((c :: changes) ++ ·)
    | _ => none

/-- The changes that a text writes. -/
def modeChanges? (s : String) : Option (List ModeChange) :=
  let cs := s.toList
  if cs ≠ [] ∧ cs.all isOctal then
    let n := octalNumber cs
    if n ≤ allModeBits then
      some [⟨.set, allModeBits, .these n, if cs.length < 5 then n &&& 0o6000 ||| 0o1777 else
        allModeBits⟩]
    else none
  else symbolicChanges? (cs.length + 1) cs

/-! ## 3. Applying -/

/-- The mode after a change; `mask` has the bits that are left out where no group is named. -/
def ModeChange.apply (isDirectory : Bool) (mask : Nat) (mode : Nat) (c : ModeChange) : Nat :=
  let omitted := if isDirectory then 0o6000 &&& otherModeBits c.mentioned else 0
  let value : Nat := match c.bits with
    | .these bits => bits
    | .copied bits =>
      let held := bits &&& mode
      [0o444, 0o222, 0o111].foldl (fun n right => if held &&& right = 0 then n else n ||| right) 0
    | .orRun bits => if mode &&& 0o111 ≠ 0 ∨ isDirectory then bits ||| 0o111 else bits
  let allowed := if c.affected = 0 then otherModeBits mask else c.affected
  let value := value &&& allowed &&& otherModeBits omitted
  match c.action with
  | .set =>
    let preserved := (if c.affected = 0 then 0 else otherModeBits c.affected) ||| omitted
    (mode &&& preserved) ||| value
  | .add => mode ||| value
  | .remove => mode &&& otherModeBits value

/-- The mode after some changes. -/
def applyChanges (changes : List ModeChange) (isDirectory : Bool) (mask mode : Nat) : Nat :=
  changes.foldl (ModeChange.apply isDirectory mask) mode

end TidyTree.Shell
