/-
TidyTree.Json.Skip — passing over a value whose content does not matter.

A value is passed over without building it, to any depth: the brackets
that are still open are kept in a list.  `skipValue` stands where a
value must begin, `skipAfter` behind one.
-/
import TidyTree.Json.Number

namespace TidyTree.Json

/-- An open bracket: that of a list or that of an object. -/
inductive Bracket where
  | list
  | object
deriving DecidableEq, Repr

namespace Bracket

/-- The character that closes the bracket. -/
def close : Bracket → Char
  | list => ']'
  | object => '\x7d'

/-- The failure when the text ends where a comma or the end of the bracket has to come. -/
def atEnd : Bracket → Cause
  | list => .endInList
  | object => .endInObject

/-- The failure when something else stands there. -/
def expected : Bracket → Cause
  | list => .expectedListCommaOrEnd
  | object => .expectedObjectCommaOrEnd

end Bracket

/-- Reads the colon after a key. -/
def readColon (cs : List Char) : Except Failure (Rest cs) :=
  match front cs with
  | .nothing => .error (.before .endInObject [])
  | .char c r => if c = ':' then .ok r else .error (.into .expectedColon (c :: r.val))

/-- Passes over a key and the colon after it. -/
def skipKey (cs : List Char) : Except Failure (Rest cs) :=
  match front cs with
  | .nothing => .error (.before .endInObject [])
  | .char c r =>
    if c = '"' then
      match skipString r.val with
      | .error e => .error e
      | .ok t =>
        match readColon t.val with
        | .error e => .error e
        | .ok u => .ok (r.less (t.less u))
    else .error (.into .keyMustBeString (c :: r.val))

/-- Passes over what may come before the next value of an open bracket: nothing in a list, a key
in an object. -/
def skipLabel (b : Bracket) (cs : List Char) : Except Failure (Remains cs) :=
  match b with
  | .list => .ok (.all cs)
  | .object =>
    match skipKey cs with
    | .error e => .error e
    | .ok r => .ok r.remains

/-- Passes over a value that has no parts and begins with `c`, already read; `none` if no such
value begins with `c`. -/
def skipScalar (c : Char) (cs : List Char) : Option (Except Failure (Remains cs)) :=
  if c = 'n' then some (readWord ['u', 'l', 'l'] cs)
  else if c = 't' then some (readWord ['r', 'u', 'e'] cs)
  else if c = 'f' then some (readWord ['a', 'l', 's', 'e'] cs)
  else if c = '"' then
    some (match skipString cs with
      | .error e => .error e
      | .ok r => .ok r.remains)
  else if c = '-' then
    some (match readUnsigned false .invalidNumber cs with
      | .error e => .error e
      | .ok (_, r) => .ok r.remains)
  else none

mutual

/-- Passes over the value that begins here and whatever is needed to close the open brackets. -/
def skipValue (opened : List Bracket) (cs : List Char) : Except Failure (Rest cs) :=
  match front cs with
  | .nothing => .error (.before .endInValue [])
  | .char c ⟨r, hr⟩ =>
    match (if c = '[' then some Bracket.list else if c = '\x7b' then some .object else none) with
    | some b =>
      match front r with
      | .nothing => .error (.before b.atEnd [])
      | .char d ⟨s, hs⟩ =>
        if d = b.close then
          match skipAfter opened s with
          | .error e => .error e
          | .ok ⟨t, ht⟩ => .ok ⟨t, by omega⟩
        else
          match skipLabel b r with
          | .error e => .error e
          | .ok ⟨s', hs'⟩ =>
            match skipValue (b :: opened) s' with
            | .error e => .error e
            | .ok ⟨t, ht⟩ => .ok ⟨t, by omega⟩
    | none =>
      match skipScalar c r with
      | some (.error e) => .error e
      | some (.ok ⟨s, hs⟩) =>
        match skipAfter opened s with
        | .error e => .error e
        | .ok ⟨t, ht⟩ => .ok ⟨t, by omega⟩
      | none =>
        if (digit? c).isSome then
          match readUnsigned false .invalidNumber (c :: r) with
          | .error e => .error e
          | .ok (_, ⟨s, hs⟩) =>
            match skipAfter opened s with
            | .error e => .error e
            | .ok ⟨t, ht⟩ => .ok ⟨t, by simp only [List.length_cons] at hs; omega⟩
        else .error (.into .expectedValue (c :: r))
termination_by 2 * cs.length
decreasing_by all_goals (try simp only [List.length_cons] at *); omega

/-- Passes over whatever is needed to close the open brackets, just behind a value. -/
def skipAfter (opened : List Bracket) (cs : List Char) : Except Failure (Remains cs) :=
  match opened with
  | [] => .ok (.all cs)
  | b :: outer =>
    match front cs with
    | .nothing => .error (.before b.atEnd [])
    | .char c ⟨r, hr⟩ =>
      if c = ',' then
        match skipLabel b r with
        | .error e => .error e
        | .ok ⟨s, hs⟩ =>
          match skipValue (b :: outer) s with
          | .error e => .error e
          | .ok ⟨t, ht⟩ => .ok ⟨t, by omega⟩
      else if c = b.close then
        match skipAfter outer r with
        | .error e => .error e
        | .ok ⟨t, ht⟩ => .ok ⟨t, by omega⟩
      else .error (.into b.expected (c :: r))
termination_by 2 * cs.length + 1

end

end TidyTree.Json
