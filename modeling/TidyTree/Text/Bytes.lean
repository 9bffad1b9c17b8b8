/-
TidyTree.Text.Bytes — texts whose characters are bytes.

Programs read and write bytes.  Where single bytes matter, a row of
bytes is kept as a text in which every character has the number of its
byte, so that it can be taken apart like any other text.  `narrow` goes
from a text to the bytes of its UTF-8 form and `widen` back; bytes that
are not UTF-8 are shown by the replacement character, one for each
longest beginning of a character.
-/

namespace TidyTree.Text

/-! ## 1. Bytes as characters -/

/-- The characters with the numbers of the bytes. -/
def ofBytes (b : ByteArray) : String := String.ofList (b.toList.map fun x => Char.ofNat x.toNat)

/-- The bytes with the numbers of the characters; of a number above 255 the lowest byte counts. -/
def toBytes (s : String) : ByteArray :=
  s.toList.foldl (fun b c => b.push c.toNat.toUInt8) ByteArray.empty

/-- Whether all characters are one byte long. -/
def isAscii (s : String) : Bool := s.toList.all fun c => c.toNat < 128

/-- The bytes of a text, each as a character. -/
def narrow (s : String) : String := if isAscii s then s else ofBytes s.toUTF8

/-! ## 2. Bytes as UTF-8 -/

/-- A character whose first bytes were read: how many bytes are missing, the number so far, and
the range in which the next byte has to lie. -/
structure Partial where
  missing : Nat
  value : Nat
  low : Nat
  high : Nat

/-- The character that replaces what cannot be read. -/
def replacement : Char := '\ufffd'

/-- Reads a byte where a character may begin. -/
def beginCharacter (b : Nat) : Option Partial × List Char :=
  if b < 0x80 then (none, [Char.ofNat b])
  else if 0xc2 ≤ b ∧ b ≤ 0xdf then (some ⟨1, b - 0xc0, 0x80, 0xbf⟩, [])
  else if b = 0xe0 then (some ⟨2, 0, 0xa0, 0xbf⟩, [])
  else if b = 0xed then (some ⟨2, 0xd, 0x80, 0x9f⟩, [])
  else if 0xe1 ≤ b ∧ b ≤ 0xef then (some ⟨2, b - 0xe0, 0x80, 0xbf⟩, [])
  else if b = 0xf0 then (some ⟨3, 0, 0x90, 0xbf⟩, [])
  else if b = 0xf4 then (some ⟨3, 4, 0x80, 0x8f⟩, [])
  else if 0xf1 ≤ b ∧ b ≤ 0xf3 then (some ⟨3, b - 0xf0, 0x80, 0xbf⟩, [])
  else (none, [replacement])

/-- Reads one byte more; gives the characters that are complete by it. -/
def readByte (p : Option Partial) (b : Nat) : Option Partial × List Char :=
  match p with
  | none => beginCharacter b
  | some ⟨missing, value, low, high⟩ =>
    if low ≤ b ∧ b ≤ high then
      let value := value * 64 + (b - 0x80)
      if missing ≤ 1 then (none, [Char.ofNat value])
      else (some ⟨missing - 1, value, 0x80, 0xbf⟩, [])
    else
      let (next, cs) := beginCharacter b
      (next, replacement :: cs)

/-- The characters that bytes stand for, `p` being what was read before them. -/
def decodeFrom (p : Option Partial) : List UInt8 → List Char
  | [] => if p.isSome then [replacement] else []
  | b :: bs =>
    let (next, cs) := readByte p b.toNat
    cs ++ decodeFrom next bs

/-- The text that bytes stand for in UTF-8. -/
def decode (b : ByteArray) : String :=
  match String.fromUTF8? b with
  | some s => s
  | none => String.ofList (decodeFrom none b.toList)

/-- The text that a row of bytes stands for. -/
def widen (s : String) : String := if isAscii s then s else decode (toBytes s)

end TidyTree.Text
