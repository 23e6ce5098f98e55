import BuildTool.Archive.Gzip
import BuildTool.Number.Binary
import BuildTool.Text.Split
import BuildTool.Text.Utf8

/-!
# Entries of an archive

An archive is a row of blocks of 512 bytes: for each entry a header and then its contents,
filled up to whole blocks. It ends with a block of zeros or with the data. Some entries only
describe the one after them: a long name, or a list of settings.

    ArchiveItem.read source  =  [entry, entry, …]  or  [entry, …, damage]

A reader gets the items one by one, so the entries before a damaged place are there to use.
-/

/-!
## Kinds of archive entries

The type byte of an entry's header tells what the entry is.
-/

namespace BuildTool

inductive EntryKind
  | regular
  | link
  | symlink
  | char
  | block
  | directory
  | fifo
  | continuous
  | longName
  | longLink
  | sparse
  | globalExtension
  | extension
  | other (byte : Nat)
  deriving DecidableEq, Repr

namespace EntryKind

/-- The kind that a type byte stands for. -/
def ofByte (b : UInt8) : EntryKind :=
  match b.toNat with
  | 0 | 48 => .regular
  | 49 => .link
  | 50 => .symlink
  | 51 => .char
  | 52 => .block
  | 53 => .directory
  | 54 => .fifo
  | 55 => .continuous
  | 76 => .longName
  | 75 => .longLink
  | 83 => .sparse
  | 103 => .globalExtension
  | 120 => .extension
  | n => .other n

def name : EntryKind → String
  | .regular => "Regular"
  | .link => "Link"
  | .symlink => "Symlink"
  | .char => "Char"
  | .block => "Block"
  | .directory => "Directory"
  | .fifo => "Fifo"
  | .continuous => "Continuous"
  | .longName => "GNULongName"
  | .longLink => "GNULongLink"
  | .sparse => "GNUSparse"
  | .globalExtension => "XGlobalHeader"
  | .extension => "XHeader"
  | .other b => "__Nonexhaustive(" ++ toString b ++ ")"

end EntryKind

end BuildTool

/-! ## Blocks and headers -/

namespace BuildTool

/-- An entry of an archive. The contents are what is there of them; `isWhole` tells whether
that is all. -/
structure ArchiveEntry where
  kind : EntryKind
  name : List UInt8
  isOldStyle : Bool
  mode : Option Nat
  modified : Option Nat
  content : List UInt8
  isWhole : Bool
  deriving DecidableEq, Repr

/-- What a reader of an archive comes to: an entry, or a place that cannot be read. -/
inductive ArchiveItem
  | entry (e : ArchiveEntry)
  | damage
  deriving DecidableEq, Repr

namespace ArchiveItem

def blockSize : Nat := 512

def untilZero (bytes : List UInt8) : List UInt8 := bytes.takeWhile (· != 0)

def field (header : List UInt8) (start size : Nat) : List UInt8 := (header.drop start).take size

/-- The number that digits of a base below ten stand for, up to 64 bits. -/
def digitsValue? (base : Nat) (digits : List Char) : Option Nat :=
  let digits := match digits with
    | '+' :: rest => rest
    | other => other
  if digits ≠ [] ∧ digits.all (fun c => '0' ≤ c ∧ c.toNat < '0'.toNat + base) then
    let n := digits.foldl (fun n c => n * base + (c.toNat - '0'.toNat)) 0
    if n < wordLimit then some n else none
  else none

def octal? (bytes : List UInt8) : Option Nat :=
  match String.fromUTF8? ⟨(untilZero bytes).toArray⟩ with
  | some text => digitsValue? 8 (Text.trimBoth Text.isBlank text.toList)
  | none => none

/-- A number in octal digits, or in bytes after a marked first one. -/
def number? (bytes : List UInt8) : Option Nat :=
  match bytes with
  | first :: rest =>
    if first &&& 0x80 = 0 then octal? bytes
    else
      let low := if bytes.length = 8 then (first ^^^ 0x80) :: rest else bytes.drop (bytes.length - 8)
      some (low.foldl (fun n b => n * 256 + b.toNat) 0)
  | [] => none

/-- The formats of headers, by the mark that they carry. -/
inductive HeaderStyle
  | old
  | standard
  | extended
  deriving DecidableEq, Repr

def styleOf (header : List UInt8) : HeaderStyle :=
  let mark := field header 257 8
  if mark = "ustar\x0000".toUTF8.toList then .standard
  else if mark = "ustar  \x00".toUTF8.toList then .extended
  else .old

/-- The sum of all bytes of a header, its own place for the sum counted as blanks. -/
def sumOf (header : List UInt8) : Nat :=
  (header.take 148 ++ header.drop 156).foldl (fun sum b => sum + b.toNat) (8 * 32)

def headerName (header : List UInt8) : List UInt8 :=
  let name := untilZero (field header 0 100)
  let front := untilZero (field header 345 155)
  if styleOf header = .standard ∧ front ≠ [] then front ++ 47 :: name else name

def splitByte (sep : UInt8) : List UInt8 → List (List UInt8)
  | [] => [[]]
  | b :: rest =>
    match splitByte sep rest with
    | [] => [[b]]
    | part :: parts => if b = sep then [] :: part :: parts else (b :: part) :: parts

/-- The settings in an entry that describes the next one: lines of a length, a blank, a name,
an equals sign and a value. A line that is malformed counts as none. -/
def settings (bytes : List UInt8) : List (Option (List UInt8 × List UInt8)) :=
  ((splitByte 10 bytes).takeWhile (· ≠ [])).map fun line => do
    let digits := line.takeWhile (· != 32)
    let setting := line.drop (digits.length + 1)
    let text ← String.fromUTF8? ⟨digits.toArray⟩
    let length ← digitsValue? 10 text.toList
    if digits.length < line.length ∧ length = line.length + 1 ∧ setting.contains 61 then
      some (setting.takeWhile (· != 61), (setting.dropWhile (· != 61)).drop 1)
    else none

def settingsName? (bytes : List UInt8) : Option (List UInt8) :=
  ((settings bytes).filterMap id).lookup "path".toUTF8.toList

def settingsSize? (bytes : List UInt8) : Option Nat :=
  let wellFormed := ((settings bytes).takeWhile (·.isSome)).filterMap id
  match wellFormed.lookup "size".toUTF8.toList with
  | some value =>
    match String.fromUTF8? ⟨value.toArray⟩ with
    | some text => digitsValue? 10 text.toList
    | none => none
  | none => none

/-- A header that has been read, with what follows it. -/
structure Raw where
  header : List UInt8
  size : Nat
  following : List UInt8
  content : List UInt8
  isWhole : Bool

/-- The outcome of reading a header: the end, damage, or a header and what follows its
contents, which is nothing when they are cut off. -/
inductive Reading
  | finish
  | damage
  | raw (raw : Raw) (rest : Option (List UInt8))

def readRaw (isDamaged : Bool) (given : Option (List UInt8)) (bytes : List UInt8) : Reading :=
  let header := bytes.take blockSize
  let body := bytes.drop blockSize
  if header = [] then if isDamaged then .damage else .finish
  else if header.length < blockSize then .damage
  else if header.all (· == 0) then .finish
  else if octal? (field header 148 8) ≠ some (sumOf header) then .damage
  else
    match number? (field header 124 12) with
    | none => .damage
    | some size =>
      let size := (given.bind settingsSize?).getD size
      if wordLimit ≤ size + blockSize then .damage
      else
        let filled := (size + blockSize - 1) / blockSize * blockSize
        .raw ⟨header, size, body, body.take size, decide (size ≤ body.length)⟩
          (if filled ≤ body.length then some (body.drop filled) else none)

/-- What has been said so far about the next entry. -/
structure Said where
  name : Option (List UInt8) := none
  link : Option (List UInt8) := none
  settings : Option (List UInt8) := none
  deriving DecidableEq

def entryOf (said : Said) (raw : Raw) : ArchiveEntry where
  kind := EntryKind.ofByte (raw.header.getD 156 0)
  name :=
    match said.name with
    | some name => if name.getLast? = some 0 then name.dropLast else name
    | none => ((said.settings.bind settingsName?).getD (headerName raw.header))
  isOldStyle := styleOf raw.header ≠ .standard
  mode := octal? (field raw.header 100 8)
  modified := number? (field raw.header 136 12)
  content := raw.content
  isWhole := raw.isWhole

/-- Takes up what an entry says about the next one, unless the same has been said before;
nothing for an entry that stands for itself. -/
def Said.add (said : Said) (raw : Raw) : Option (Except Unit Said) :=
  if styleOf raw.header = .old then none
  else
    let once (before : Option (List UInt8)) (after : Said) : Except Unit Said :=
      if before.isSome || !raw.isWhole then .error () else .ok after
    match EntryKind.ofByte (raw.header.getD 156 0) with
    | .longName => some (once said.name { said with name := some raw.content })
    | .longLink => some (once said.link { said with link := some raw.content })
    | .extension => some (once said.settings { said with settings := some raw.content })
    | _ => none

/-! ### Sparse files

The contents of a sparse file have gaps. Its header lists up to four regions, and blocks behind the
header list more. -/

/-- How far the regions read so far reach in the file, and how much of the contents is left for
the others. -/
structure Coverage where
  reached : Nat := 0
  left : Nat

/-- Takes up a region: it begins where the file has been reached or later, and the contents of
those before fill whole blocks. An empty place in a list counts for nothing. -/
def Coverage.add? (size : Nat) (c : Coverage) (region : List UInt8) : Option Coverage :=
  if region.headD 0 = 0 ∨ (region.drop 12).headD 0 = 0 then some c
  else do
    let start ← octal? (field region 0 12)
    let length ← octal? (field region 12 12)
    if (length ≠ 0 ∧ (size - c.left) % blockSize ≠ 0) ∨ start < c.reached ∨
        wordLimit ≤ start + length ∨ c.left < length then none
    else some { reached := start + length, left := c.left - length }

/-- Takes up the regions in a list with `count` places. -/
def Coverage.addAll? (size count : Nat) (bytes : List UInt8) (c : Coverage) : Option Coverage :=
  (List.range count).foldlM (fun c i => c.add? size (field bytes (24 * i) 24)) c

/-- Takes up the regions in the blocks behind a header, each of which says whether another one
follows; there are at most `fuel` of them. -/
def Coverage.addBlocks? (size : Nat) : Nat → Bool → List UInt8 → Coverage → Option Coverage
  | _, false, _, c => some c
  | 0, true, _, _ => none
  | fuel + 1, true, bytes, c => do
    let block := bytes.take blockSize
    if block.length < blockSize then none
    let c ← c.addAll? size 21 block
    addBlocks? size fuel (block.getD 504 0 == 1) (bytes.drop blockSize) c

/-- The regions of a sparse file take up all its contents and reach to its end. -/
def Raw.isCovered (raw : Raw) : Bool :=
  let covered := do
    let c ← Coverage.addAll? raw.size 4 (raw.header.drop 386) { left := raw.size }
    let c ← c.addBlocks? raw.size (raw.following.length / blockSize + 1)
      (raw.header.getD 482 0 == 1) raw.following
    let length ← octal? (field raw.header 483 12)
    return c.left = 0 ∧ c.reached = length
  styleOf raw.header = .extended ∧ covered = some true

/-! ### Items -/

/-- Reads items; each takes a block at least, so there are at most `fuel` of them. -/
def readItems (isDamaged : Bool) : Nat → Said → List UInt8 → List ArchiveItem
  | 0, _, _ => []
  | fuel + 1, said, bytes =>
    match readRaw isDamaged said.settings bytes with
    | .damage => [.damage]
    | .finish => if said = {} then [] else [.damage]
    | .raw raw rest =>
      let following (said : Said) : List ArchiveItem :=
        match rest with
        | some rest => readItems isDamaged fuel said rest
        | none => [.damage]
      match said.add raw with
      | some (.error ()) => [.damage]
      | some (.ok said) => following said
      | none =>
        let e := entryOf said raw
        if e.kind = .sparse ∧ !raw.isCovered then [.damage]
        else .entry e :: following {}

def read (source : ByteSource) : List ArchiveItem :=
  readItems source.isDamaged (source.bytes.length / blockSize + 1) {} source.bytes

end ArchiveItem

end BuildTool
