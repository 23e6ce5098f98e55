/-!
# Bytes as text

Programs print bytes. Where a text is needed, every ill-formed stretch of bytes, taken as the
longest beginning of a well-formed sequence or else as one byte, is read as the replacement
character U+FFFD.
-/

namespace BuildTool.Text

/-- What a leading byte announces: how many bytes follow, the range of the first of them, and
the leading byte's share of the code point. -/
structure Lead where
  follow : Nat
  least : Nat
  greatest : Nat
  bits : Nat

/-- The sequence that a byte of 128 or more can begin. The range of the second byte excludes
overlong forms, surrogates and code points above U+10FFFF. -/
def lead? (b : Nat) : Option Lead :=
  if b < 0xC2 then none
  else if b < 0xE0 then some ⟨1, 0x80, 0xBF, b - 0xC0⟩
  else if b = 0xE0 then some ⟨2, 0xA0, 0xBF, 0⟩
  else if b = 0xED then some ⟨2, 0x80, 0x9F, 0xD⟩
  else if b < 0xF0 then some ⟨2, 0x80, 0xBF, b - 0xE0⟩
  else if b = 0xF0 then some ⟨3, 0x90, 0xBF, 0⟩
  else if b < 0xF4 then some ⟨3, 0x80, 0xBF, b - 0xF0⟩
  else if b = 0xF4 then some ⟨3, 0x80, 0x8F, 4⟩
  else none

/-- Reads the bytes that follow a leading byte: the code point, or nothing when the sequence
breaks off, and what is left from there. -/
def follow : Nat → Nat → Nat → Nat → List UInt8 → Option Nat × List UInt8
  | 0, _, _, bits, bytes => (some bits, bytes)
  | _ + 1, _, _, _, [] => (none, [])
  | n + 1, least, greatest, bits, b :: bytes =>
    if least ≤ b.toNat ∧ b.toNat ≤ greatest then
      follow n 0x80 0xBF (bits * 64 + (b.toNat - 0x80)) bytes
    else (none, b :: bytes)

theorem length_follow_le (n least greatest bits : Nat) (bytes : List UInt8) :
    (follow n least greatest bits bytes).2.length ≤ bytes.length := by
  induction n generalizing least greatest bits bytes with
  | zero => simp [follow]
  | succ n ih =>
    cases bytes with
    | nil => simp [follow]
    | cons b bytes =>
      unfold follow
      split
      · exact Nat.le_succ_of_le (ih ..)
      · simp

/-- The characters of a byte sequence, U+FFFD for each ill-formed stretch. -/
def lossyChars : List UInt8 → List Char
  | [] => []
  | b :: bytes =>
    if b.toNat < 0x80 then Char.ofNat b.toNat :: lossyChars bytes
    else
      match lead? b.toNat with
      | none => '\uFFFD' :: lossyChars bytes
      | some l =>
        (match (follow l.follow l.least l.greatest l.bits bytes).1 with
          | some n => Char.ofNat n
          | none => '\uFFFD') ::
            lossyChars (follow l.follow l.least l.greatest l.bits bytes).2
  termination_by bytes => bytes.length
  decreasing_by
    · simp
    · simp
    · exact Nat.lt_succ_of_le (length_follow_le ..)

/-- The text of a byte sequence, with replacement characters where it is ill-formed. -/
def lossyText (bytes : ByteArray) : String :=
  match String.fromUTF8? bytes with
  | some s => s
  | none => String.ofList (lossyChars bytes.toList)

end BuildTool.Text

/-!
## Octet texts

Some programs take texts byte by byte, whatever characters the bytes make up. An octet text
serves them: each of its characters stands for one byte and has the number of that byte.

    é    as an octet text    U+00C3 U+00A9
-/

namespace BuildTool.Text

def octet (b : UInt8) : Char := Char.ofNat b.toNat

def ofBytes (bytes : ByteArray) : String := String.ofList (bytes.toList.map octet)

def octetBytes (octets : List Char) : List UInt8 := octets.map fun c => UInt8.ofNat c.toNat

def toBytes (octets : String) : ByteArray := ⟨(octetBytes octets.toList).toArray⟩

/-- The bytes of one character, as an octet text. -/
def octetsOf (c : Char) : List Char :=
  if c.toNat < 128 then [c] else (String.utf8EncodeChar c).map octet

@[irreducible] def octets (s : String) : String := String.ofList (s.toList.flatMap octetsOf)

theorem octetsOf_ne_nil (c : Char) : octetsOf c ≠ [] := by
  unfold octetsOf
  split
  · exact List.cons_ne_nil _ _
  · intro hnil
    have hlength := congrArg List.length hnil
    rw [List.length_map, String.length_utf8EncodeChar] at hlength
    exact absurd hlength (Nat.pos_iff_ne_zero.mp c.utf8Size_pos)

theorem octets_eq_empty_iff {s : String} : octets s = "" ↔ s = "" := by
  rw [octets, ← String.toList_eq_nil_iff, ← String.toList_eq_nil_iff, String.toList_ofList,
    List.flatMap_eq_nil_iff]
  refine ⟨fun h => List.eq_nil_iff_forall_not_mem.mpr fun c hc => octetsOf_ne_nil c (h c hc), ?_⟩
  intro h
  rw [h]
  exact nofun

/-- The text whose bytes an octet text holds, with replacement characters where they are
ill-formed. -/
def fromOctets (octets : String) : String := lossyText (toBytes octets)

end BuildTool.Text

/-!
## Bytes behind percent signs

Text that cannot hold every character has bytes written as a percent sign and two digits.
-/

namespace BuildTool.Text

def upperDigit (n : Nat) : Char := (Nat.digitChar n).toUpper

def percentByte (b : UInt8) : List Char :=
  ['%', upperDigit (b.toNat / 16), upperDigit (b.toNat % 16)]

/-- The text with control characters, characters beyond ASCII and those in `special` written as
bytes behind percent signs. -/
def percentEncode (special : List Char) (s : List Char) : List Char :=
  s.flatMap fun c =>
    if c.toNat < 32 ∨ 126 < c.toNat ∨ c ∈ special then
      (String.singleton c).toUTF8.toList.flatMap percentByte
    else [c]

def hexDigit? (c : Char) : Option Nat :=
  if '0' ≤ c ∧ c ≤ '9' then some (c.toNat - '0'.toNat)
  else if 'a' ≤ c ∧ c ≤ 'f' then some (c.toNat - 'a'.toNat + 10)
  else if 'A' ≤ c ∧ c ≤ 'F' then some (c.toNat - 'A'.toNat + 10)
  else none

/-- The bytes of a text with those behind percent signs. -/
def percentDecode : List Char → List UInt8
  | '%' :: a :: b :: rest =>
    match hexDigit? a, hexDigit? b with
    | some high, some low => UInt8.ofNat (high * 16 + low) :: percentDecode rest
    | _, _ => 37 :: percentDecode (a :: b :: rest)
  | c :: rest => (String.singleton c).toUTF8.toList ++ percentDecode rest
  | [] => []

end BuildTool.Text
