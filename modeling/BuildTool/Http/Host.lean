import BuildTool.Http.DomainName
import BuildTool.Text.Utf8

/-!
# Hosts

The host in an address is a domain name, four numbers, or eight groups of hexadecimal digits in
brackets. Numbers may be written in several ways and have one form in the end:

    0x7f.1            is  127.0.0.1
    [1:0:0::0:1]      is  [1::1]
-/

namespace BuildTool.Http.Host

/-! ## Four numbers -/

/-- The number in a part of an address of four numbers. -/
def number? (s : List Char) : Option Nat :=
  let value (base : Nat) (digits : List Char) : Option Nat :=
    digits.foldl (fun n c => do
      let n ← n
      let d ← Text.hexDigit? c
      if d < base then some (n * base + d) else none) (some 0)
  match s with
  | [] => none
  | '0' :: x :: rest => if x = 'x' ∨ x = 'X' then value 16 rest else value 8 (x :: rest)
  | _ => value 10 s

/-- The four numbers that some parts stand for; the last part fills the rest. -/
def ofNumbers? (parts : List (List Char)) : Option String :=
  match parts.mapM number? with
  | none => none
  | some numbers =>
    let front := numbers.dropLast
    let last := numbers.getLast?.getD 0
    if numbers.length ≤ 4 ∧ numbers ≠ [] ∧ front.all (· < 256) ∧
        last < Nat.pow 256 (5 - numbers.length) then
      let n := front.zipIdx.foldl (fun n p => n + p.1 * Nat.pow 256 (3 - p.2)) last
      some (".".intercalate
        ([n / 16777216, n / 65536 % 256, n / 256 % 256, n % 256].map toString))
    else none

/-! ## Eight groups -/

/-- A number of an address of four numbers at the end of groups: a decimal number below 256
without zeros in front. -/
def octet? (s : List Char) : Option Nat :=
  if s.isEmpty ∨ !s.all Char.isDigit ∨ (s.head? = some '0' ∧ s.length ≠ 1) then none
  else
    let n := s.foldl (fun n c => n * 10 + (c.toNat - '0'.toNat)) 0
    if n < 256 then some n else none

/-- The value of a group of up to four digits. -/
def group? (s : List Char) : Option Nat :=
  if s.isEmpty ∨ 4 < s.length then none
  else s.foldl (fun n c => do return (← n) * 16 + (← Text.hexDigit? c)) (some 0)

/-- The groups in a text; the last two may be written as four numbers if `ends`. -/
def groups? (ends : Bool) (s : List Char) : Option (List Nat) :=
  if s.isEmpty then some []
  else do
    let parts := Text.splitChar ':' s
    let last := parts.getLast?.getD []
    let front ← parts.dropLast.mapM group?
    if ends ∧ last.contains '.' then
      match ← (Text.splitChar '.' last).mapM octet? with
      | [a, b, c, d] => some (front ++ [a * 256 + b, c * 256 + d])
      | _ => none
    else return front ++ [← group? last]

/-- The eight groups of an address; two colons stand for one group of zeros or more. -/
def eightGroups? (s : List Char) : Option (List Nat) := do
  match Text.splitText [':', ':'] s with
  | [whole] =>
    let groups ← groups? true whole
    if groups.length = 8 then some groups else none
  | [front, back] =>
    let front ← groups? false front
    let back ← groups? true back
    let missing := 8 - front.length - back.length
    if 1 ≤ missing then some (front ++ List.replicate missing 0 ++ back) else none
  | _ => none

/-- Where the first of the longest runs of zeros begins, and its length. -/
def zeroRun (groups : List Nat) : Nat × Nat :=
  (List.range groups.length).foldl (fun best start =>
    let length := ((groups.drop start).takeWhile (· = 0)).length
    if best.2 < length then (start, length) else best) (0, 0)

/-- Eight groups as text: the first of the longest runs of zeros is left out if it has two groups
or more. -/
def groupText (groups : List Nat) : String :=
  let write (groups : List Nat) : String :=
    ":".intercalate (groups.map fun n => String.ofList (Nat.toDigits 16 n))
  let (start, length) := zeroRun groups
  if length < 2 then write groups
  else write (groups.take start) ++ "::" ++ write (groups.drop (start + length))

/-- The host in brackets, given what stands behind the first one. -/
def bracketed? (s : List Char) : Option String :=
  if s.getLast? = some ']' then
    (eightGroups? s.dropLast).map fun groups => "[" ++ groupText groups ++ "]"
  else none

/-! ## Hosts -/

/-- The characters that the name of a host cannot hold. -/
def isForbidden (c : Char) : Bool :=
  c.toNat ≤ 32 || c.toNat ≥ 127 || " #%/:<>?@[\\]^|".toList.contains c

/-- A name ends in a number, and so is an address of four numbers. -/
def endsInNumber (parts : List (List Char)) : Bool :=
  let last := parts.getLast?.getD []
  !last.isEmpty && (last.all Char.isDigit || (number? last).isSome)

/-- Reads the host of a scheme whose hosts are names of domains. -/
def named? (s : List Char) : Option String :=
  match s with
  | '[' :: rest => bracketed? rest
  | _ => do
    let name ← DomainName.ascii? (Text.lossyText ⟨(Text.percentDecode s).toArray⟩).toList
    if name = [] ∨ name.any isForbidden then none
    let parts := Text.splitChar '.' name
    let parts := if parts.getLast? = some [] ∧ 1 < parts.length then parts.dropLast else parts
    if endsInNumber parts then ofNumbers? parts else some (String.ofList name)

/-- Reads the host of any other scheme, which may be anything. -/
def anyText? (s : List Char) : Option String :=
  match s with
  | '[' :: rest => bracketed? rest
  | _ =>
    if s.any fun c => c.toNat = 0 ∨ " #/:<>?@[\\]^|".toList.contains c then none
    else some (String.ofList (Text.percentEncode [] s))

end BuildTool.Http.Host
