/-
TidyTree.Config.Json — configurations as JSON text.

`Config.toJson` writes all four fields, compactly and in their order.
`Config.ofJson` reads an object, in any order and with unknown keys
passed over, or a list that gives the fields in their order; fields not
given keep their defaults.  A field given twice is a failure, and so is
a list of more than four elements.
-/
import TidyTree.Config.Field
import TidyTree.Json.Skip
import TidyTree.Json.Write

namespace TidyTree.Config

open Json

/-! ## 1. Writing -/

/-- The value of a field as JSON. -/
def valueChars (c : Config) : Field → List Char
  | .rootDir => stringChars c.rootDir
  | .program => stringChars c.program
  | .inPlaceFlag => stringChars c.inPlaceFlag
  | .suffixes => stringsChars c.suffixes

/-- A field with its key. -/
def memberChars (c : Config) (f : Field) : List Char :=
  stringChars f.key ++ ':' :: c.valueChars f

/-- The characters of a configuration as a JSON object. -/
def jsonChars (c : Config) : List Char :=
  '\x7b' :: (commaSeparated (Field.all.map c.memberChars) ++ ['\x7d'])

/-- The configuration as a JSON object. -/
def toJson (c : Config) : String := String.ofList c.jsonChars

/-! ## 2. Reading values -/

/-- The failure of finding something else than `expected` at the front of `cs`, where no blanks
stand any more. -/
def mismatch (expected : String) (cs : List Char) : Failure :=
  let wrong (found : Found) (rest : List Char) := Failure.before (.invalidType found expected) rest
  let word (w : List Char) (found : Found) (r : List Char) : Failure :=
    match readWord w r with
    | .error e => e
    | .ok ⟨t, _⟩ => wrong found t
  let number (negative : Bool) (r : List Char) : Failure :=
    match readNumber negative r with
    | .error e => e
    | .ok (n, ⟨t, _⟩) => wrong n.found t
  match cs with
  | [] => .before .endInValue []
  | c :: r =>
    if c = 'n' then word ['u', 'l', 'l'] .null r
    else if c = 't' then word ['r', 'u', 'e'] (.boolean true) r
    else if c = 'f' then word ['a', 'l', 's', 'e'] (.boolean false) r
    else if c = '-' then number true r
    else if (digit? c).isSome then number false (c :: r)
    else if c = '"' then
      match readString r with
      | .error e => e
      | .ok (s, ⟨t, _⟩) => wrong (.string s) t
    else if c = '[' then wrong .sequence (c :: r)
    else if c = '\x7b' then wrong .map (c :: r)
    else .into .expectedValue (c :: r)

/-- Reads a string value. -/
def readStringValue (cs : List Char) : Reading String cs :=
  match front cs with
  | .nothing => .error (.before .endInValue [])
  | .char c r =>
    if c = '"' then
      match readString r.val with
      | .error e => .error e
      | .ok (s, t) => .ok (s, r.less t)
    else .error (mismatch "a string" (c :: r.val))

/-- Reads the elements of a list of strings behind one of them, up to the closing bracket. -/
def readMoreStrings (cs : List Char) : Reading (List String) cs :=
  match front cs with
  | .nothing => .error (.before .endInList [])
  | .char c r =>
    if c = ']' then .ok ([], r)
    else if c = ',' then
      match front r.val with
      | .nothing => .error (.before .endInValue [])
      | .char d s =>
        if d = ']' then .error (.into .trailingComma (d :: s.val))
        else
          match readStringValue r.val with
          | .error e => .error e
          | .ok (v, t) =>
            match readMoreStrings t.val with
            | .error e => .error e
            | .ok (vs, u) => .ok (v :: vs, r.less (t.less u))
    else .error (.into .expectedListCommaOrEnd (c :: r.val))
termination_by cs.length
decreasing_by exact (r.less t).property

/-- Reads the elements of a list of strings, of which the opening bracket is already read. -/
def readStrings (cs : List Char) : Reading (List String) cs :=
  match front cs with
  | .nothing => .error (.before .endInList [])
  | .char c r =>
    if c = ']' then .ok ([], r)
    else
      match readStringValue cs with
      | .error e => .error e
      | .ok (v, t) =>
        match readMoreStrings t.val with
        | .error e => .error e
        | .ok (vs, u) => .ok (v :: vs, t.less u)

/-- Reads the value of a field. -/
def readValue (f : Field) (cs : List Char) : Reading f.Value cs :=
  match f with
  | .rootDir | .program | .inPlaceFlag => readStringValue cs
  | .suffixes =>
    match front cs with
    | .nothing => .error (.before .endInValue [])
    | .char c r =>
      if c = '[' then
        match readStrings r.val with
        | .error e => .error e
        | .ok (vs, t) => .ok (vs, r.less t)
      else .error (mismatch "a sequence" (c :: r.val))

/-! ## 3. Reading an object -/

/-- The failure of a field given twice.  It is placed behind the blanks that follow the second
key, and behind the closing brace if that comes next. -/
def duplicate (f : Field) (cs : List Char) : Failure :=
  match front cs with
  | .nothing => .before (.duplicateField f.key) []
  | .char c r =>
    if c = '\x7d' then .before (.duplicateField f.key) r.val
    else .before (.duplicateField f.key) (c :: r.val)

/-- Reads what follows a key: the colon and the value, which is passed over if the key is
unknown. -/
def readMember (p : Partial) (key : String) (cs : List Char) : Reading Partial cs :=
  match Field.ofKey? key with
  | none =>
    match readColon cs with
    | .error e => .error e
    | .ok r =>
      match skipValue [] r.val with
      | .error e => .error e
      | .ok t => .ok (p, r.less t)
  | some f =>
    if p.has f then .error (duplicate f cs)
    else
      match readColon cs with
      | .error e => .error e
      | .ok r =>
        match readValue f r.val with
        | .error e => .error e
        | .ok (v, t) => .ok (p.set f v, r.less t)

/-- Reads the members of an object from the opening quote of a key up to the closing brace; the
quote is already read. -/
def readMembers (p : Partial) (cs : List Char) : Reading Partial cs :=
  match readString cs with
  | .error e => .error e
  | .ok (key, r) =>
    match readMember p key r.val with
    | .error e => .error e
    | .ok (q, s) =>
      match front s.val with
      | .nothing => .error (.before .endInObject [])
      | .char c t =>
        if c = '\x7d' then .ok (q, r.less (s.less t))
        else if c = ',' then
          match front t.val with
          | .nothing => .error (.before .endInValue [])
          | .char d u =>
            if d = '"' then
              match readMembers q u.val with
              | .error e => .error e
              | .ok (a, v) => .ok (a, r.less (s.less (t.less (u.less v))))
            else if d = '\x7d' then .error (.into .trailingComma (d :: u.val))
            else .error (.into .keyMustBeString (d :: u.val))
        else .error (.into .expectedObjectCommaOrEnd (c :: t.val))
termination_by cs.length
decreasing_by exact (r.less (s.less (t.less u))).property

/-- Reads an object, of which the opening brace is already read. -/
def readObject (cs : List Char) : Reading Partial cs :=
  match front cs with
  | .nothing => .error (.before .endInObject [])
  | .char c r =>
    if c = '\x7d' then .ok (.blank, r)
    else if c = '"' then
      match readMembers .blank r.val with
      | .error e => .error e
      | .ok (p, t) => .ok (p, r.less t)
    else .error (.into .keyMustBeString (c :: r.val))

/-! ## 4. Reading a list -/

/-- Reads the end of a list after all fields: nothing more may come. -/
def readListEnd (p : Partial) (cs : List Char) : Reading Partial cs :=
  match front cs with
  | .nothing => .error (.before .endInList [])
  | .char c r =>
    if c = ']' then .ok (p, r)
    else if c = ',' then
      match front r.val with
      | .nothing => .error (.before .trailingCharacters [])
      | .char d s =>
        if d = ']' then .error (.into .trailingComma (d :: s.val))
        else .error (.into .trailingCharacters (d :: s.val))
    else .error (.into .trailingCharacters (c :: r.val))

/-- Reads the values of the fields `fs` behind an earlier one, up to the closing bracket. -/
def readMoreFields (p : Partial) (fs : List Field) (cs : List Char) : Reading Partial cs :=
  match fs with
  | [] => readListEnd p cs
  | f :: fs =>
    match front cs with
    | .nothing => .error (.before .endInList [])
    | .char c r =>
      if c = ']' then .ok (p, r)
      else if c = ',' then
        match front r.val with
        | .nothing => .error (.before .endInValue [])
        | .char d s =>
          if d = ']' then .error (.into .trailingComma (d :: s.val))
          else
            match readValue f r.val with
            | .error e => .error e
            | .ok (v, t) =>
              match readMoreFields (p.set f v) fs t.val with
              | .error e => .error e
              | .ok (q, u) => .ok (q, r.less (t.less u))
      else .error (.into .expectedListCommaOrEnd (c :: r.val))

/-- Reads a list that gives the fields in their order, of which the opening bracket is already
read. -/
def readList (cs : List Char) : Reading Partial cs :=
  match front cs with
  | .nothing => .error (.before .endInList [])
  | .char c r =>
    if c = ']' then .ok (.blank, r)
    else
      match readValue .rootDir cs with
      | .error e => .error e
      | .ok (v, t) =>
        match readMoreFields (Partial.blank.set .rootDir v)
            [.program, .inPlaceFlag, .suffixes] t.val with
        | .error e => .error e
        | .ok (p, u) => .ok (p, t.less u)

/-! ## 5. The whole text -/

/-- Reads a configuration at the front of a text. -/
def readConfig (cs : List Char) : Reading Partial cs :=
  match front cs with
  | .nothing => .error (.before .endInValue [])
  | .char c r =>
    if c = '\x7b' then
      match readObject r.val with
      | .error e => .error e
      | .ok (p, t) => .ok (p, r.less t)
    else if c = '[' then
      match readList r.val with
      | .error e => .error e
      | .ok (p, t) => .ok (p, r.less t)
    else .error (mismatch "struct FormatConfig" (c :: r.val))

/-- Reads a text that is a configuration with nothing but blanks around it. -/
def readText (cs : List Char) : Except Failure Config :=
  match readConfig cs with
  | .error e => .error e
  | .ok (p, r) =>
    match front r.val with
    | .nothing => .ok p.fill
    | .char c s => .error (.into .trailingCharacters (c :: s.val))

/-- The configuration that a JSON text gives, or why it gives none. -/
def ofJson (text : String) : Except Failure Config := readText text.toList

end TidyTree.Config
