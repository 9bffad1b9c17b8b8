/-
TidyTree.Shell.Field — from what a word stands for to fields.

An expanded word is a row of atoms.  Characters that come from an
expansion outside quotes may end a field: white space of `IFS` around
fields counts for nothing, and any other character of `IFS` ends exactly
one field.  A field that is a pattern then gives the paths that fit it.
-/
import TidyTree.FileSystem.Resolve
import TidyTree.Shell.Pattern
import TidyTree.Text.Bytes

namespace TidyTree.Shell

/-! ## 1. Fields -/

/-- What a word stands for, character by character. -/
inductive Atom where
  /-- A character; `splits` says that it may end a field. -/
  | char (c : Char) (quoted splits : Bool)
  /-- A field stands here even if nothing is in it. -/
  | mark
  /-- The end of a field. -/
  | cut
deriving DecidableEq, Repr

/-- The atoms of a text that an expansion gave. -/
def Atom.ofText (quoted : Bool) (s : String) : List Atom :=
  s.toList.map fun c => .char c quoted (!quoted)

/-- Where the reader of atoms stands. -/
inductive Between where
  /-- At the beginning, or behind a character that ended a field. -/
  | fields
  /-- Behind white space that ended a field. -/
  | blanks
  /-- In a field, the last character first. -/
  | inside (field : List Quotable)

/-- Whether the character is white space in `IFS`. -/
def isFieldBlank (c : Char) : Bool := c = ' ' || c = '\t' || c = '\n'

/-- Puts atoms together to fields. -/
def fieldsFrom (separators : List Char) : Between → List Atom → List (List Quotable)
  | .inside f, [] => [f.reverse]
  | _, [] => []
  | b, .char c quoted splits :: as =>
    if splits ∧ separators.contains c then
      if isFieldBlank c then
        match b with
        | .inside f => f.reverse :: fieldsFrom separators .blanks as
        | _ => fieldsFrom separators b as
      else
        match b with
        | .inside f => f.reverse :: fieldsFrom separators .fields as
        | .blanks => fieldsFrom separators .fields as
        | .fields => [] :: fieldsFrom separators .fields as
    else
      match b with
      | .inside f => fieldsFrom separators (.inside ((c, quoted) :: f)) as
      | _ => fieldsFrom separators (.inside [(c, quoted)]) as
  | b, .mark :: as =>
    match b with
    | .inside f => fieldsFrom separators (.inside f) as
    | _ => fieldsFrom separators (.inside []) as
  | b, .cut :: as =>
    match b with
    | .inside f => f.reverse :: fieldsFrom separators .fields as
    | _ => fieldsFrom separators .fields as

/-- The fields of some atoms. -/
def fields (separators : List Char) (as : List Atom) : List (List Quotable) :=
  fieldsFrom separators .fields as

/-- The characters of some atoms, a separator standing for the end of a field. -/
def joined (separator : List Char) (as : List Atom) : List Quotable :=
  as.flatMap fun
    | .char c quoted _ => [(c, quoted)]
    | .mark => []
    | .cut => separator.map fun c => (c, false)

/-- The text of a field. -/
def plain (f : List Quotable) : String := String.ofList (f.map (·.1))

/-! ## 2. Paths -/

/-- The components of a field, with the number of slashes in front of each. -/
def splitField : (slashes : Nat) → (done : List Quotable) → List Quotable →
    List (Nat × List Quotable)
  | n, done, [] => [(n, done.reverse)]
  | n, done, (c, q) :: cs =>
    if c = '/' then
      if done.isEmpty then splitField (n + 1) [] cs
      else (n, done.reverse) :: splitField 1 [] cs
    else splitField n ((c, q) :: done) cs

/-- Whether something stands at a path. -/
def isThere (fs : FileSystem) (path : String) : Bool :=
  let path := Text.widen path
  match fs.locate path with
  | .ok s => (fs.at? s).isSome && (!s.asDirectory || fs.isDirectory path)
  | .error _ => (fs.resolve path).isOk

/-- The paths that a row of patterns stands for behind the text `before`. -/
def matchingPaths (fs : FileSystem) : (before : String) → List (Nat × List Quotable) → List String
  | before, [] => if isThere fs before then [before] else []
  | before, (slashes, p) :: ps =>
    let before := before ++ String.ofList (List.replicate slashes '/')
    if p.isEmpty then matchingPaths fs before ps
    else if isPattern p then
      let glob := Glob.ofText p
      match fs.resolve (Text.widen (if before = "" then "." else before)) with
      | .ok (.directory _ none inside) =>
        let names := [".", ".."] ++ inside.names.map Text.narrow
        let fitting := names.filter fun n =>
          fits glob n.toList && (n.toList.head? ≠ some '.' || (p.head?.map (·.1)) = some '.')
        (fitting.mergeSort (· ≤ ·)).flatMap fun n =>
          if ps.isEmpty then [before ++ n] else matchingPaths fs (before ++ n) ps
      | _ => []
    else matchingPaths fs (before ++ plain (resolveBackslashes p)) ps

/-- The words that a field gives: the paths that fit it, or itself if it is no pattern or no path
fits. -/
def fieldWords (fs : FileSystem) (f : List Quotable) : List String :=
  if isPattern f then
    match matchingPaths fs "" (splitField 0 [] f) with
    | [] => [plain f]
    | paths => paths
  else [plain f]

end TidyTree.Shell
