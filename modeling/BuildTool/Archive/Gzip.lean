/-!
# Gzip

A gzip file is a header, deflated data, and the check value and size of the data. A reader gets
the unpacked bytes one after the other, and learns only after the last of them whether
something is wrong: `ByteSource` keeps both.
-/

/-!
## Deflated data

Deflated data is a row of bits, the lowest bit of a byte first. It consists of blocks: stored
bytes, or symbols in prefix codes that are fixed or come with the block. A symbol is a byte, the
end of the block, or the length of a copy of earlier output, followed by its distance.

    Inflate.run data  =  what could be unpacked, and why it ended
-/

namespace BuildTool.Inflate

/-- Why unpacking ends early: the data ends, or says what cannot be. -/
inductive Stop
  | cutOff
  | corrupt
  deriving DecidableEq, Repr

/-- How far unpacking has come: the next bit of the data, and the output. -/
structure Progress where
  data : ByteArray
  position : Nat := 0
  out : ByteArray := ByteArray.empty

/-- A step of unpacking. What was unpacked before a stop is kept. -/
abbrev Step := EStateM Stop Progress

def bit : Step Nat := do
  let p ← get
  match p.data[p.position / 8]? with
  | none => throw .cutOff
  | some byte =>
    set { p with position := p.position + 1 }
    return byte.toNat >>> (p.position % 8) % 2

/-- Reads a number of `count` bits, the lowest first. -/
def bits : Nat → Step Nat
  | 0 => return 0
  | count + 1 => do
    let low ← bit
    return low + 2 * (← bits count)

def emit (byte : UInt8) : Step Unit := modify fun p => { p with out := p.out.push byte }

/-- A prefix code: how many symbols have a code of each length, and the symbols by the length
of their code. Codes of one length follow each other in number, and shorter ones come first. -/
structure Code where
  counts : List Nat
  symbols : Array Nat
  deriving Repr

namespace Code

/-- The longest codes have fifteen bits. -/
def maxLength : Nat := 15

/-- The code in which symbol `i` has a code of `lengths[i]` bits, or none for length zero. -/
def ofLengths (lengths : List Nat) : Code where
  counts := (List.range maxLength).map fun l => lengths.count (l + 1)
  symbols := ((List.range maxLength).flatMap fun l =>
    lengths.zipIdx.filterMap fun p => if p.1 = l + 1 then some p.2 else none).toArray

/-- How much of the room for codes is used, the whole being `2^15`. -/
def used (c : Code) : Nat :=
  c.counts.zipIdx.foldl (fun used p => used + p.1 * Nat.pow 2 (maxLength - 1 - p.2)) 0

/-- A code must use all of the room, unless it has at most one symbol. -/
def isValid (c : Code) : Bool := c.used = Nat.pow 2 maxLength || c.symbols.size ≤ 1

/-- Reads the bits of a code of a certain length, given the counts from there on, the first
number of that length, the bits read and the symbols passed over. -/
def readFrom (symbols : Array Nat) : List Nat → Nat → Nat → Nat → Step Nat
  | [], _, _, _ => throw .corrupt
  | count :: longer, first, read, passed => do
    let read := read + (← bit)
    if read < first + count then
      match symbols[passed + (read - first)]? with
      | some symbol => return symbol
      | none => throw .corrupt
    else readFrom symbols longer ((first + count) * 2) (read * 2) (passed + count)

def read (c : Code) : Step Nat := readFrom c.symbols c.counts 0 0 0

end Code

/-- The shortest copy of each length symbol from 257 on, and the bits that add to it. -/
def lengthBases : Array (Nat × Nat) := #[
  (3, 0), (4, 0), (5, 0), (6, 0), (7, 0), (8, 0), (9, 0), (10, 0), (11, 1), (13, 1), (15, 1),
  (17, 1), (19, 2), (23, 2), (27, 2), (31, 2), (35, 3), (43, 3), (51, 3), (59, 3), (67, 4),
  (83, 4), (99, 4), (115, 4), (131, 5), (163, 5), (195, 5), (227, 5), (258, 0)]

/-- The shortest distance of each distance symbol, and the bits that add to it. -/
def distanceBases : Array (Nat × Nat) := #[
  (1, 0), (2, 0), (3, 0), (4, 0), (5, 1), (7, 1), (9, 2), (13, 2), (17, 3), (25, 3), (33, 4),
  (49, 4), (65, 5), (97, 5), (129, 6), (193, 6), (257, 7), (385, 7), (513, 8), (769, 8),
  (1025, 9), (1537, 9), (2049, 10), (3073, 10), (4097, 11), (6145, 11), (8193, 12), (12289, 12),
  (16385, 13), (24577, 13)]

/-- Reads the bits that add to a base. -/
def extended (bases : Array (Nat × Nat)) (symbol : Nat) : Step Nat :=
  match bases[symbol]? with
  | some (base, extra) => return base + (← bits extra)
  | none => throw .corrupt

/-- Copies output from `distance` bytes back. What lies before the output counts as zero. -/
def copy (distance : Nat) : Nat → Step Unit
  | 0 => return ()
  | length + 1 => do
    let p ← get
    let byte := if distance ≤ p.out.size then p.out[p.out.size - distance]? else none
    emit (byte.getD 0)
    copy distance length

/-- Reads symbols up to the end of a block; each takes a bit at least, so `fuel` is enough if
there are no more bits. -/
def symbols (literals distances : Code) : Nat → Step Unit
  | 0 => throw .cutOff
  | fuel + 1 => do
    let symbol ← literals.read
    if symbol < 256 then
      emit (UInt8.ofNat symbol)
      symbols literals distances fuel
    else if symbol = 256 then return ()
    else
      let length ← extended lengthBases (symbol - 257)
      let distance ← extended distanceBases (← distances.read)
      copy distance length
      symbols literals distances fuel

/-- Copies stored bytes. -/
def stored : Nat → Step Unit
  | 0 => return ()
  | count + 1 => do
    emit (UInt8.ofNat (← bits 8))
    stored count

/-- Skips to the next whole byte. -/
def align : Step Unit := modify fun p => { p with position := (p.position + 7) / 8 * 8 }

/-- A block of stored bytes: their number, the same with all bits turned over, and the bytes. -/
def storedBlock : Step Unit := do
  align
  let count ← bits 16
  let check ← bits 16
  if count + check = 65535 then stored count else throw .corrupt

/-- The code for bytes and lengths of a block that brings no codes. -/
def fixedLiterals : Code :=
  .ofLengths (List.replicate 144 8 ++ List.replicate 112 9 ++ List.replicate 24 7 ++
    List.replicate 8 8)

def fixedDistances : Code := .ofLengths (List.replicate 32 5)

/-- The order in which the code lengths of the code for code lengths are written. -/
def lengthOrder : List Nat := [16, 17, 18, 0, 8, 7, 9, 6, 10, 5, 11, 4, 12, 3, 13, 2, 14, 1, 15]

/-- Reads code lengths until there are `total`; the lengths read so far are kept last first.
Each symbol takes a bit at least and gives one length at least. -/
def codeLengths (code : Code) (total : Nat) : Nat → List Nat → Step (List Nat)
  | 0, _ => throw .corrupt
  | fuel + 1, done => do
    if done.length = total then return done.reverse
    else if total < done.length then throw .corrupt
    else
      let symbol ← code.read
      if symbol < 16 then codeLengths code total fuel (symbol :: done)
      else
        let (count, length) ←
          if symbol = 16 then
            match done with
            | last :: _ => pure (3 + (← bits 2), last)
            | [] => throw .corrupt
          else if symbol = 17 then pure (3 + (← bits 3), 0)
          else pure (11 + (← bits 7), 0)
        codeLengths code total fuel (List.replicate count length ++ done)

/-- Reads the lengths of the codes for code lengths. -/
def metaLengths : Nat → Step (List Nat)
  | 0 => return []
  | count + 1 => do
    let length ← bits 3
    return length :: (← metaLengths count)

/-- Reads the codes that a block brings. -/
def blockCodes : Step (Code × Code) := do
  let literalCount := 257 + (← bits 5)
  let distanceCount := 1 + (← bits 5)
  let metaCount := 4 + (← bits 4)
  if literalCount > 286 || distanceCount > 30 then throw .corrupt
  let given := lengthOrder.zip (← metaLengths metaCount)
  let metaCode := Code.ofLengths ((List.range 19).map fun i => (given.lookup i).getD 0)
  if !metaCode.isValid then throw .corrupt
  let total := literalCount + distanceCount
  let lengths ← codeLengths metaCode total (total + 1) []
  let literals := Code.ofLengths (lengths.take literalCount)
  let distances := Code.ofLengths (lengths.drop literalCount)
  if literals.isValid && distances.isValid then return (literals, distances)
  else throw .corrupt

/-- Reads a block and tells whether it is the last. -/
def block : Step Bool := do
  let last ← bit
  let p ← get
  let fuel := p.data.size * 8 - p.position + 1
  match ← bits 2 with
  | 0 => storedBlock
  | 1 => symbols fixedLiterals fixedDistances fuel
  | 2 =>
    let (literals, distances) ← blockCodes
    symbols literals distances fuel
  | _ => throw .corrupt
  return last = 1

/-- Reads blocks up to the last one; each takes a bit at least. -/
def blocks : Nat → Step Unit
  | 0 => throw .cutOff
  | fuel + 1 => do
    if ← block then return ()
    else blocks fuel

/-- What was unpacked: the output, the number of bytes read, and why it ended early. -/
structure Result where
  out : ByteArray
  size : Nat
  stop : Option Stop

/-- Unpacks deflated data up to its end; what follows is left alone. -/
def run (data : ByteArray) : Result :=
  match blocks (data.size * 8 + 1) { data := data } with
  | .ok _ p => ⟨p.out, (p.position + 7) / 8, none⟩
  | .error stop p => ⟨p.out, (p.position + 7) / 8, some stop⟩

end BuildTool.Inflate

/-! ## Files -/

namespace BuildTool

/-- Bytes to be read in order, and whether reading fails after the last of them. -/
structure ByteSource where
  bytes : List UInt8
  isDamaged : Bool
  deriving DecidableEq, Repr

def ByteSource.ofBytes (data : ByteArray) : ByteSource := ⟨data.toList, false⟩

namespace Gzip

def checkBit (n : UInt32) : UInt32 :=
  if n &&& 1 = 1 then (n >>> 1) ^^^ 0xedb88320 else n >>> 1

def checkByte (n : UInt32) (byte : UInt8) : UInt32 :=
  (List.range 8).foldl (fun n _ => checkBit n) (n ^^^ byte.toUInt32)

def checkValue (bytes : List UInt8) : UInt32 := ~~~(bytes.foldl checkByte 0xffffffff)

/-- The number in bytes, the lowest first. -/
def number : List UInt8 → Nat
  | [] => 0
  | b :: rest => b.toNat + 256 * number rest

/-- A header field with its length in the two bytes before it. -/
def skipExtra : List UInt8 → Option (List UInt8)
  | a :: b :: rest => if number [a, b] ≤ rest.length then some (rest.drop (number [a, b])) else none
  | _ => none

/-- A header field that ends with a zero. -/
def skipText (bytes : List UInt8) : Option (List UInt8) :=
  match bytes.dropWhile (· != 0) with
  | _ :: rest => some rest
  | [] => none

/-- Skips a header field if a flag is set. -/
def skipIf (flags : UInt8) (flag : UInt8)
    (skip : List UInt8 → Option (List UInt8)) (bytes : List UInt8) : Option (List UInt8) :=
  if flags &&& flag = 0 then some bytes else skip bytes

/-- Skips the header's own check value, which is over all before it. -/
def skipCheck (whole rest : List UInt8) : Option (List UInt8) :=
  let header := whole.take (whole.length - rest.length)
  match rest with
  | a :: b :: after =>
    if number [a, b] = (checkValue header).toNat % 65536 then some after else none
  | _ => none

def afterHeader? (bytes : List UInt8) : Option (List UInt8) :=
  match bytes with
  | 0x1f :: 0x8b :: 8 :: flags :: _ :: _ :: _ :: _ :: _ :: _ :: rest =>
    if flags &&& 0xe0 ≠ 0 then none
    else do
      let rest ← skipIf flags 4 skipExtra rest
      let rest ← skipIf flags 8 skipText rest
      let rest ← skipIf flags 16 skipText rest
      skipIf flags 2 (skipCheck bytes) rest
  | _ => none

/-- Data is unpacked in pieces of this size, and a piece with an error in it is lost. -/
def pieceSize : Nat := 32768

def unpack (data : ByteArray) : ByteSource :=
  match afterHeader? data.toList with
  | none => ⟨[], true⟩
  | some body =>
    let r := Inflate.run ⟨body.toArray⟩
    let out := r.out.toList
    match r.stop with
    | some .cutOff => ⟨out, true⟩
    | some .corrupt => ⟨out.take (out.length / pieceSize * pieceSize), true⟩
    | none =>
      let trailer := (body.drop r.size).take 8
      ⟨out, !(trailer.length = 8 ∧ number (trailer.take 4) = (checkValue out).toNat ∧
        number (trailer.drop 4) = out.length % 4294967296)⟩

end Gzip

end BuildTool
