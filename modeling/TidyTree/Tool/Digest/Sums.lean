/-
TidyTree.Tool.Digest.Sums — sums over bytes.

A message is filled up to whole blocks, the last of which ends in its
length, and the blocks are mixed into a state one after the other.  Two
of the three ways differ only in how a word is written in bytes and in
what a block does to the state.
-/
namespace TidyTree.Tool.Digest

/-! ## 1. Words and blocks -/

/-- A word turned to the left. -/
def turnLeft (w : UInt32) (n : UInt32) : UInt32 := (w <<< n) ||| (w >>> (32 - n))

/-- A word turned to the right. -/
def turnRight (w : UInt32) (n : UInt32) : UInt32 := (w >>> n) ||| (w <<< (32 - n))

/-- The bytes of a number, the one that counts least first. -/
def bytesUp (count n : Nat) : List UInt8 :=
  (List.range count).map fun i => UInt8.ofNat (n >>> (8 * i))

/-- The word that four bytes write. -/
def wordOf (lowFirst : Bool) (bytes : List UInt8) : UInt32 :=
  (if lowFirst then bytes.reverse else bytes).foldl (fun w b => (w <<< 8) ||| b.toUInt32) 0

/-- A message filled up to whole blocks of sixty-four bytes. -/
def filled (lowFirst : Bool) (message : ByteArray) : ByteArray :=
  let zeros := (119 - message.size % 64) % 64
  let length := bytesUp 8 (8 * message.size)
  let ending := if lowFirst then length else length.reverse
  ((0x80 :: List.replicate zeros 0) ++ ending).foldl ByteArray.push message

/-- The words of the block that begins at a place. -/
def blockWords (lowFirst : Bool) (b : ByteArray) (place : Nat) : Array UInt32 :=
  ((List.range 16).map fun i =>
    wordOf lowFirst ((b.extract (place + 4 * i) (place + 4 * i + 4)).toList)).toArray

/-- A word of a row of words. -/
def wordAt (ws : Array UInt32) (i : Nat) : UInt32 := (ws[i]?).getD 0

/-- Mixes all blocks of a message into a state. -/
def mixAll (lowFirst : Bool) (mix : Array UInt32 → Array UInt32 → Array UInt32)
    (state : Array UInt32) (message : ByteArray) : Array UInt32 :=
  let b := filled lowFirst message
  (List.range (b.size / 64)).foldl (fun s i => mix s (blockWords lowFirst b (64 * i))) state

/-- The hexadecimal digits of a state. -/
def hexText (lowFirst : Bool) (state : Array UInt32) : String :=
  let digit (n : Nat) : Char := (("0123456789abcdef".toList)[n]?).getD '0'
  String.join (state.toList.map fun w =>
    let up := bytesUp 4 w.toNat
    String.ofList ((if lowFirst then up else up.reverse).flatMap fun b =>
      [digit (b.toNat / 16), digit (b.toNat % 16)]))

/-- Adds two states word by word. -/
def addStates (a b : Array UInt32) : Array UInt32 := Array.zipWith (· + ·) a b

/-! ## 2. Constants -/

/-- The largest number whose square is no larger, searched from the highest bit down. -/
def squareRoot (n : Nat) : Nat :=
  (List.range 64).foldl (fun r i =>
    let next := r + Nat.pow 2 (63 - i)
    if next * next ≤ n then next else r) 0

/-- The largest number whose cube is no larger. -/
def cubeRoot (n : Nat) : Nat :=
  (List.range 48).foldl (fun r i =>
    let next := r + Nat.pow 2 (47 - i)
    if next * next * next ≤ n then next else r) 0

/-- The first sixty-four primes. -/
def primes : List Nat :=
  ((List.range 312).filter fun n => 2 ≤ n && (List.range n).all fun d => d < 2 || n % d ≠ 0)

/-- The first bits behind the point of the square roots of the first eight primes. -/
def longStart : Array UInt32 :=
  ((primes.take 8).map fun p => UInt32.ofNat (squareRoot (p * Nat.pow 2 64))).toArray

/-- The first bits behind the point of the cube roots of the first sixty-four primes. -/
def longConstants : Array UInt32 :=
  (primes.map fun p => UInt32.ofNat (cubeRoot (p * Nat.pow 2 96))).toArray

/-- The state from which the shorter sums start, of which the first takes four words. -/
def shortStart : Array UInt32 := #[0x67452301, 0xefcdab89, 0x98badcfe, 0x10325476, 0xc3d2e1f0]

/-- The numbers that are added in the shortest sum: the sizes of the sines of one, two, three …,
in units of which there are 2 to the power of 32 in one. -/
def sineConstants : Array UInt32 :=
  #[0xd76aa478, 0xe8c7b756, 0x242070db, 0xc1bdceee, 0xf57c0faf, 0x4787c62a, 0xa8304613, 0xfd469501,
    0x698098d8, 0x8b44f7af, 0xffff5bb1, 0x895cd7be, 0x6b901122, 0xfd987193, 0xa679438e, 0x49b40821,
    0xf61e2562, 0xc040b340, 0x265e5a51, 0xe9b6c7aa, 0xd62f105d, 0x02441453, 0xd8a1e681, 0xe7d3fbc8,
    0x21e1cde6, 0xc33707d6, 0xf4d50d87, 0x455a14ed, 0xa9e3e905, 0xfcefa3f8, 0x676f02d9, 0x8d2a4c8a,
    0xfffa3942, 0x8771f681, 0x6d9d6122, 0xfde5380c, 0xa4beea44, 0x4bdecfa9, 0xf6bb4b60, 0xbebfbc70,
    0x289b7ec6, 0xeaa127fa, 0xd4ef3085, 0x04881d05, 0xd9d4d039, 0xe6db99e5, 0x1fa27cf8, 0xc4ac5665,
    0xf4292244, 0x432aff97, 0xab9423a7, 0xfc93a039, 0x655b59c3, 0x8f0ccc92, 0xffeff47d, 0x85845dd1,
    0x6fa87e4f, 0xfe2ce6e0, 0xa3014314, 0x4e0811a1, 0xf7537e82, 0xbd3af235, 0x2ad7d2bb, 0xeb86d391]

/-- How far words are turned in the shortest sum. -/
def turns : List (List UInt32) :=
  [[7, 12, 17, 22], [5, 9, 14, 20], [4, 11, 16, 23], [6, 10, 15, 21]]

/-! ## 3. Mixing -/

/-- Mixes a block into the state of the shortest sum. -/
def mixShortest (state ws : Array UInt32) : Array UInt32 :=
  let step (s : UInt32 × UInt32 × UInt32 × UInt32) (i : Nat) : UInt32 × UInt32 × UInt32 × UInt32 :=
    let (a, b, c, d) := s
    let (f, g) : UInt32 × Nat :=
      if i < 16 then ((b &&& c) ||| (~~~b &&& d), i)
      else if i < 32 then ((d &&& b) ||| (~~~d &&& c), (5 * i + 1) % 16)
      else if i < 48 then (b ^^^ c ^^^ d, (3 * i + 5) % 16)
      else (c ^^^ (b ||| ~~~d), (7 * i) % 16)
    let turn := ((turns[i / 16]?).bind fun row => row[i % 4]?).getD 0
    (d, b + turnLeft (f + a + wordAt sineConstants i + wordAt ws g) turn, b, c)
  let (a, b, c, d) := (List.range 64).foldl step
    (wordAt state 0, wordAt state 1, wordAt state 2, wordAt state 3)
  addStates state #[a, b, c, d]

/-- Mixes a block into the state of the middle sum. -/
def mixMiddle (state ws : Array UInt32) : Array UInt32 :=
  let spread := (List.range 64).foldl (fun (all : Array UInt32) i =>
    all.push (turnLeft (wordAt all (i + 13) ^^^ wordAt all (i + 8) ^^^ wordAt all (i + 2) ^^^
      wordAt all i) 1)) ws
  let step (s : List UInt32) (i : Nat) : List UInt32 :=
    match s with
    | [a, b, c, d, e] =>
      let (f, k) : UInt32 × UInt32 :=
        if i < 20 then ((b &&& c) ||| (~~~b &&& d), 0x5a827999)
        else if i < 40 then (b ^^^ c ^^^ d, 0x6ed9eba1)
        else if i < 60 then ((b &&& c) ||| (b &&& d) ||| (c &&& d), 0x8f1bbcdc)
        else (b ^^^ c ^^^ d, 0xca62c1d6)
      [turnLeft a 5 + f + e + k + wordAt spread i, a, turnLeft b 30, c, d]
    | _ => s
  addStates state ((List.range 80).foldl step state.toList).toArray

/-- Mixes a block into the state of the longest sum. -/
def mixLongest (constants : Array UInt32) (state ws : Array UInt32) : Array UInt32 :=
  let spread := (List.range 48).foldl (fun (all : Array UInt32) i =>
    let x := wordAt all (i + 1)
    let y := wordAt all (i + 14)
    let small := turnRight x 7 ^^^ turnRight x 18 ^^^ (x >>> 3)
    let large := turnRight y 17 ^^^ turnRight y 19 ^^^ (y >>> 10)
    all.push (wordAt all i + small + wordAt all (i + 9) + large)) ws
  let step (s : List UInt32) (i : Nat) : List UInt32 :=
    match s with
    | [a, b, c, d, e, f, g, h] =>
      let first := h + (turnRight e 6 ^^^ turnRight e 11 ^^^ turnRight e 25) +
        ((e &&& f) ^^^ (~~~e &&& g)) + wordAt constants i + wordAt spread i
      let second := (turnRight a 2 ^^^ turnRight a 13 ^^^ turnRight a 22) +
        ((a &&& b) ^^^ (a &&& c) ^^^ (b &&& c))
      [first + second, a, b, c, d + first, e, f, g]
    | _ => s
  addStates state ((List.range 64).foldl step state.toList).toArray

/-! ## 4. Sums -/

/-- The ways to sum up a message. -/
inductive Kind where
  | shortest | middle | longest
deriving DecidableEq

/-- The sum of a message in hexadecimal digits. -/
def Kind.text (k : Kind) (message : ByteArray) : String :=
  match k with
  | .shortest => hexText true (mixAll true mixShortest (shortStart.extract 0 4) message)
  | .middle => hexText false (mixAll false mixMiddle shortStart message)
  | .longest => hexText false (mixAll false (mixLongest longConstants) longStart message)

/-- How many digits a sum has. -/
def Kind.digits : Kind → Nat
  | shortest => 32
  | middle => 40
  | longest => 64

/-- What a remainder of a division of polynomials becomes with one byte more. -/
def remainderStep (r : UInt32) (b : UInt8) : UInt32 :=
  (List.range 8).foldl (fun (r : UInt32) _ =>
    if r &&& 0x80000000 ≠ 0 then (r <<< 1) ^^^ 0x04c11db7 else r <<< 1) (r ^^^ (b.toUInt32 <<< 24))

/-- The remainder of a message that is followed by its length. -/
def remainderOf (message : ByteArray) : Nat :=
  let length := (bytesUp 8 message.size).reverse.dropWhile (· = 0)
  (~~~((length.reverse).foldl remainderStep (message.toList.foldl remainderStep 0))).toNat

/-- The sum of all bytes, the sum so far turned by one bit before each. -/
def turnedSum (message : ByteArray) : Nat :=
  message.toList.foldl (fun s b => (s / 2 + (s % 2) * 32768 + b.toNat) % 65536) 0

/-- The sum of all bytes, with what is above sixteen bits added in. -/
def foldedSum (message : ByteArray) : Nat :=
  let s := message.toList.foldl (fun s b => s + b.toNat) 0
  let r := s % 65536 + s % 4294967296 / 65536
  r % 65536 + r / 65536

end TidyTree.Tool.Digest
