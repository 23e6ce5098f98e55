import BuildTool.Text.Split

/-!
# Checksums

A checksum names its digest and gives the value that the digest must have, in hexadecimal
digits of either case: `md5:…` or `sha256:…`. Blanks around the value do not count.
-/

/-!
## Digests

Both digests read a message in blocks of 64 bytes. The message is closed with a one bit, zero
bits up to eight bytes before the end of a block, and its own length in bits in those eight
bytes. What remains to be said is the order of bytes in a number.

    blocks (closed message)  =  [64 bytes, 64 bytes, …]
-/

namespace BuildTool.Digest

inductive ByteOrder
  | lowFirst
  | highFirst
  deriving DecidableEq, Repr

/-- A number as bytes, the lowest first. -/
def lowBytes : Nat → Nat → List UInt8
  | 0, _ => []
  | count + 1, n => UInt8.ofNat (n % 256) :: lowBytes count (n / 256)

def numberBytes (order : ByteOrder) (count n : Nat) : List UInt8 :=
  match order with
  | .lowFirst => lowBytes count n
  | .highFirst => (lowBytes count n).reverse

def close (order : ByteOrder) (message : List UInt8) : List UInt8 :=
  let zeros := (119 - message.length % 64) % 64
  message ++ 128 :: List.replicate zeros 0 ++ numberBytes order 8 (message.length * 8)

/-- The first `count` blocks of some bytes. -/
def blocks : Nat → List UInt8 → List (List UInt8)
  | 0, _ => []
  | count + 1, bytes => bytes.take 64 :: blocks count (bytes.drop 64)

def messageBlocks (order : ByteOrder) (message : List UInt8) : List (List UInt8) :=
  let closed := close order message
  blocks (closed.length / 64) closed

/-- The number that bytes stand for, the highest first. -/
def numberOf (bytes : List UInt8) : Nat := bytes.foldl (fun n b => n * 256 + b.toNat) 0

/-- The words of four bytes that a block consists of. -/
def words (order : ByteOrder) : List UInt8 → List UInt32
  | a :: b :: c :: d :: rest =>
    let word := match order with
      | .lowFirst => numberOf [d, c, b, a]
      | .highFirst => numberOf [a, b, c, d]
    UInt32.ofNat word :: words order rest
  | _ => []

/-- The bits of a word turned to the left, `n` being between 1 and 31. -/
def turnLeft (word : UInt32) (n : Nat) : UInt32 :=
  (word <<< UInt32.ofNat n) ||| (word >>> UInt32.ofNat (32 - n))

/-- The bits of a word turned to the right, `n` being between 1 and 31. -/
def turnRight (word : UInt32) (n : Nat) : UInt32 := turnLeft word (32 - n)

def wordBytes (order : ByteOrder) (ws : List UInt32) : List UInt8 :=
  ws.flatMap fun w => numberBytes order 4 w.toNat

def hexByte (b : UInt8) : List Char :=
  [Nat.digitChar (b.toNat / 16), Nat.digitChar (b.toNat % 16)]

def hex (bytes : List UInt8) : String := String.ofList (bytes.flatMap hexByte)

/-!
### The MD5 digest

Sixteen bytes for a message: four words are mixed with each block in 64 steps, in four rounds
of sixteen steps that differ in the mixing function and in the order of the block's words.
-/

namespace Md5

structure Mix where
  a : UInt32
  b : UInt32
  c : UInt32
  d : UInt32
  deriving DecidableEq, Repr

def start : Mix := ⟨0x67452301, 0xefcdab89, 0x98badcfe, 0x10325476⟩

/-- How far each step of a round turns, by the last two bits of its number. -/
def turns : Nat → Nat → Nat
  | 0, i => [7, 12, 17, 22].getD i 7
  | 1, i => [5, 9, 14, 20].getD i 5
  | 2, i => [4, 11, 16, 23].getD i 4
  | _, i => [6, 10, 15, 21].getD i 6

/-- The constant of each step: the sine of its number, counted from one, as a fraction of
`2^32`. -/
def constants : List UInt32 := [
  0xd76aa478, 0xe8c7b756, 0x242070db, 0xc1bdceee, 0xf57c0faf, 0x4787c62a, 0xa8304613, 0xfd469501,
  0x698098d8, 0x8b44f7af, 0xffff5bb1, 0x895cd7be, 0x6b901122, 0xfd987193, 0xa679438e, 0x49b40821,
  0xf61e2562, 0xc040b340, 0x265e5a51, 0xe9b6c7aa, 0xd62f105d, 0x02441453, 0xd8a1e681, 0xe7d3fbc8,
  0x21e1cde6, 0xc33707d6, 0xf4d50d87, 0x455a14ed, 0xa9e3e905, 0xfcefa3f8, 0x676f02d9, 0x8d2a4c8a,
  0xfffa3942, 0x8771f681, 0x6d9d6122, 0xfde5380c, 0xa4beea44, 0x4bdecfa9, 0xf6bb4b60, 0xbebfbc70,
  0x289b7ec6, 0xeaa127fa, 0xd4ef3085, 0x04881d05, 0xd9d4d039, 0xe6db99e5, 0x1fa27cf8, 0xc4ac5665,
  0xf4292244, 0x432aff97, 0xab9423a7, 0xfc93a039, 0x655b59c3, 0x8f0ccc92, 0xffeff47d, 0x85845dd1,
  0x6fa87e4f, 0xfe2ce6e0, 0xa3014314, 0x4e0811a1, 0xf7537e82, 0xbd3af235, 0x2ad7d2bb, 0xeb86d391]

/-- The mixing function and the word of the block for a step. -/
def choose (m : Mix) (i : Nat) : UInt32 × Nat :=
  match i / 16 with
  | 0 => ((m.b &&& m.c) ||| (~~~m.b &&& m.d), i)
  | 1 => ((m.d &&& m.b) ||| (~~~m.d &&& m.c), (5 * i + 1) % 16)
  | 2 => (m.b ^^^ m.c ^^^ m.d, (3 * i + 5) % 16)
  | _ => (m.c ^^^ (m.b ||| ~~~m.d), 7 * i % 16)

def step (ws : Array UInt32) (m : Mix) (constant : UInt32 × Nat) : Mix :=
  let (f, word) := choose m constant.2
  let sum := f + m.a + constant.1 + ws.getD word 0
  ⟨m.d, m.b + turnLeft sum (turns (constant.2 / 16) (constant.2 % 4)), m.b, m.c⟩

def mixBlock (m : Mix) (block : List UInt8) : Mix :=
  let n := constants.zipIdx.foldl (step (words .lowFirst block).toArray) m
  ⟨m.a + n.a, m.b + n.b, m.c + n.c, m.d + n.d⟩

def digest (message : List UInt8) : List UInt8 :=
  let m := (messageBlocks .lowFirst message).foldl mixBlock start
  wordBytes .lowFirst [m.a, m.b, m.c, m.d]

end Md5

/-!
### The SHA-256 digest

Thirty-two bytes for a message: eight words are mixed with each block in 64 steps. The sixteen
words of a block are stretched to 64, one for each step.
-/

namespace Sha256

/-- The words at the start: fractions of the square roots of the first eight primes. -/
def start : List UInt32 := [
  0x6a09e667, 0xbb67ae85, 0x3c6ef372, 0xa54ff53a, 0x510e527f, 0x9b05688c, 0x1f83d9ab, 0x5be0cd19]

/-- The constant of each step: fractions of the cube roots of the first 64 primes. -/
def constants : List UInt32 := [
  0x428a2f98, 0x71374491, 0xb5c0fbcf, 0xe9b5dba5, 0x3956c25b, 0x59f111f1, 0x923f82a4, 0xab1c5ed5,
  0xd807aa98, 0x12835b01, 0x243185be, 0x550c7dc3, 0x72be5d74, 0x80deb1fe, 0x9bdc06a7, 0xc19bf174,
  0xe49b69c1, 0xefbe4786, 0x0fc19dc6, 0x240ca1cc, 0x2de92c6f, 0x4a7484aa, 0x5cb0a9dc, 0x76f988da,
  0x983e5152, 0xa831c66d, 0xb00327c8, 0xbf597fc7, 0xc6e00bf3, 0xd5a79147, 0x06ca6351, 0x14292967,
  0x27b70a85, 0x2e1b2138, 0x4d2c6dfc, 0x53380d13, 0x650a7354, 0x766a0abb, 0x81c2c92e, 0x92722c85,
  0xa2bfe8a1, 0xa81a664b, 0xc24b8b70, 0xc76c51a3, 0xd192e819, 0xd6990624, 0xf40e3585, 0x106aa070,
  0x19a4c116, 0x1e376c08, 0x2748774c, 0x34b0bcb5, 0x391c0cb3, 0x4ed8aa4a, 0x5b9cca4f, 0x682e6ff3,
  0x748f82ee, 0x78a5636f, 0x84c87814, 0x8cc70208, 0x90befffa, 0xa4506ceb, 0xbef9a3f7, 0xc67178f2]

/-- The next word of a stretched block, from the sixteen words before it. -/
def nextWord (ws : Array UInt32) : UInt32 :=
  let at_ (back : Nat) : UInt32 := ws.getD (ws.size - back) 0
  let s0 := turnRight (at_ 15) 7 ^^^ turnRight (at_ 15) 18 ^^^ (at_ 15 >>> 3)
  let s1 := turnRight (at_ 2) 17 ^^^ turnRight (at_ 2) 19 ^^^ (at_ 2 >>> 10)
  at_ 16 + s0 + at_ 7 + s1

/-- A block's words stretched by `count` more. -/
def stretch : Nat → Array UInt32 → Array UInt32
  | 0, ws => ws
  | count + 1, ws => stretch count (ws.push (nextWord ws))

/-- One step, with its constant and its word of the stretched block added up. -/
def step (mix : List UInt32) (added : UInt32) : List UInt32 :=
  match mix with
  | [a, b, c, d, e, f, g, h] =>
    let s1 := turnRight e 6 ^^^ turnRight e 11 ^^^ turnRight e 25
    let chosen := (e &&& f) ^^^ (~~~e &&& g)
    let t1 := h + s1 + chosen + added
    let s0 := turnRight a 2 ^^^ turnRight a 13 ^^^ turnRight a 22
    let major := (a &&& b) ^^^ (a &&& c) ^^^ (b &&& c)
    [t1 + s0 + major, a, b, c, d + t1, e, f, g]
  | other => other

def mixBlock (mix : List UInt32) (block : List UInt8) : List UInt32 :=
  let ws := stretch 48 (words .highFirst block).toArray
  let added := List.zipWith (· + ·) constants ws.toList
  List.zipWith (· + ·) mix (added.foldl step mix)

def digest (message : List UInt8) : List UInt8 :=
  wordBytes .highFirst ((messageBlocks .highFirst message).foldl mixBlock start)

end Sha256

end BuildTool.Digest

/-! ## What a checksum says -/

namespace BuildTool

/-- The digests that a checksum can name. -/
inductive DigestKind
  | md5
  | sha256
  deriving DecidableEq, Repr

namespace DigestKind

/-- The digest of some bytes, in hexadecimal digits. -/
def hexOf (kind : DigestKind) (bytes : List UInt8) : String :=
  match kind with
  | .md5 => Digest.hex (Digest.Md5.digest bytes)
  | .sha256 => Digest.hex (Digest.Sha256.digest bytes)

end DigestKind

/-- A digest's kind and expected value. -/
structure Checksum where
  kind : DigestKind
  expected : List Char
  deriving DecidableEq, Repr

namespace Checksum

def parse? (text : String) : Option Checksum :=
  match Text.cutChar? ':' text.toList with
  | some (name, value) =>
    let expected := Text.trimBoth Text.isBlank value
    if name = "md5".toList then some ⟨.md5, expected⟩
    else if name = "sha256".toList then some ⟨.sha256, expected⟩
    else none
  | none => none

def isMet (c : Checksum) (bytes : List UInt8) : Bool :=
  (c.kind.hexOf bytes).toList.map Char.toLower == c.expected.map Char.toLower

end Checksum

end BuildTool
