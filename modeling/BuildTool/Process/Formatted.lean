import BuildTool.Number.Numeral
import BuildTool.Text.Quoted
import BuildTool.Text.Utf8

/-!
# Formatted printing

`printf` writes its format once, and again as long as arguments are left over. A backslash
begins an escape, a percent sign a conversion of the next argument; a missing argument counts
as empty or zero. Formats and arguments are octet texts.

The shell has a `printf` of its own, which differs from the program in the escapes it knows, in
its complaints and in the precision of its binary fractions.
-/

namespace BuildTool.Formatted

/-- Who prints: the program or the shell. -/
inductive Printer
  | program
  | shell
  deriving DecidableEq

namespace Printer

def precision : Printer → BinaryFormat
  | .program => .extended
  | .shell => .double

/-- The bits that the first hexadecimal digit of a mantissa holds. -/
def leadingBits : Printer → Nat
  | .program => 4
  | .shell => 1

/-- An argument as the complaints of the program show it. -/
def quoted (argument : String) : String :=
  String.ofList (Text.messageQuotation argument.toList)

/-- The complaint about an argument that is no number. -/
def notNumeric (p : Printer) (argument : String) : String :=
  match p with
  | .program => Printer.quoted argument ++ ": expected a numeric value"
  | .shell => argument ++ ": expected numeric value"

/-- The complaint about an argument that is a number only at its beginning. -/
def notConverted (p : Printer) (argument : String) : String :=
  match p with
  | .program => Printer.quoted argument ++ ": value not completely converted"
  | .shell => argument ++ ": not completely converted"

/-- The complaint about a number that is too great or too small. -/
def outOfRange (p : Printer) (argument : String) : String :=
  match p with
  | .program => Printer.quoted argument ++ ": Numerical result out of range"
  | .shell => argument ++ ": Numerical result out of range"

end Printer

/-! ## Escapes -/

inductive Escaped
  | bytes (bytes : List UInt8)
  | stop
  | fault (text : String)

/-- The byte of a letter that is an escape for all printers. -/
def letter? : Char → Option UInt8
  | 'a' => some 7
  | 'b' => some 8
  | 'f' => some 12
  | 'n' => some 10
  | 'r' => some 13
  | 't' => some 9
  | 'v' => some 11
  | '\\' => some 92
  | _ => none

/-- The text of a character that the character set in use lacks. -/
def missingCharacter (letter : Char) (ds : List Char) : List UInt8 :=
  Text.octetBytes ('\\' :: letter :: ds.map Char.toUpper)

/-- A character given by its number in hexadecimal digits, which are all of a text. -/
def character (letter : Char) (count : Nat) (ds : List Char) : Escaped :=
  let n := (Numeral.digits 16 count 0 ds).1
  if ds.length < count ∨ ds.any fun c => (Numeral.digit? 16 c).isNone then
    .fault "missing hexadecimal number in escape"
  else if 0xd800 ≤ n ∧ n ≤ 0xdfff then
    .fault ("invalid universal character name \\" ++
      String.ofList (letter :: ds.map Char.toLower))
  else if n < 128 then .bytes [UInt8.ofNat n]
  else if n < 0x10000 then .bytes (missingCharacter 'u' (Fixed.padded 4 (Nat.toDigits 16 n)))
  else .bytes (missingCharacter 'U' (Fixed.padded 8 (Nat.toDigits 16 n)))

/-- What the text after a backslash in a format stands for, and what follows it. -/
def escape (printer : Printer) (text : List Char) : Escaped × List Char :=
  match text with
  | [] => (.bytes [92], [])
  | c :: rest =>
    match letter? c with
    | some b => (.bytes [b], rest)
    | none =>
      if (Numeral.digit? 8 c).isSome then
        let (value, after) := Numeral.digits 8 3 0 (c :: rest)
        (.bytes [UInt8.ofNat value], after)
      else
        match printer with
        | .shell => (.bytes [92], c :: rest)
        | .program =>
          if c = '"' then (.bytes [34], rest)
          else if c = 'e' then (.bytes [27], rest)
          else if c = 'c' then (.stop, [])
          else if c = 'x' then
            let (value, after) := Numeral.digits 16 2 0 rest
            if after.length = rest.length then (.fault "missing hexadecimal number in escape", [])
            else (.bytes [UInt8.ofNat value], after)
          else if c = 'u' then (character c 4 (rest.take 4), rest.drop 4)
          else if c = 'U' then (character c 8 (rest.take 8), rest.drop 8)
          else (.bytes (Text.octetBytes ['\\', c]), rest)

theorem length_escape_le (printer : Printer) (text : List Char) :
    (escape printer text).2.length ≤ text.length := by
  unfold escape
  split
  · simp
  · next c rest =>
    have hx := Numeral.length_digits_le 16 2 0 rest
    have ho := Numeral.length_digits_le 8 3 0 (c :: rest)
    dsimp only
    repeat' split
    all_goals simp only [List.length_cons, List.length_nil, List.length_drop] at *
    all_goals omega

/-- An escape in an argument, where a zero may stand in front of an octal number and `c` ends
the output. -/
def argumentEscape (printer : Printer) (text : List Char) : Escaped × List Char :=
  match text with
  | '0' :: rest =>
    let (value, after) := Numeral.digits 8 3 0 rest
    (.bytes [UInt8.ofNat value], after)
  | 'c' :: _ => (.stop, [])
  | text => escape printer text

theorem length_argumentEscape_le (printer : Printer) (text : List Char) :
    (argumentEscape printer text).2.length ≤ text.length := by
  unfold argumentEscape
  split
  · next rest => exact Nat.le_succ_of_le (Numeral.length_digits_le 8 3 0 rest)
  · simp
  · exact length_escape_le printer _

/-- A text with its escapes carried out: the bytes, and what ended it before its end. -/
def unescaped (read : List Char → Escaped × List Char)
    (shrinks : ∀ text, (read text).2.length ≤ text.length) : List Char → List UInt8 × Option Escaped
  | [] => ([], none)
  | c :: rest =>
    if c = '\\' then
      match h : read rest with
      | (.bytes bytes, after) =>
        have : after.length ≤ rest.length := by simpa [h] using shrinks rest
        let (more, ended) := unescaped read shrinks after
        (bytes ++ more, ended)
      | (.stop, _) => ([], some .stop)
      | (.fault text, _) => ([], some (.fault text))
    else
      let (more, ended) := unescaped read shrinks rest
      (UInt8.ofNat c.toNat :: more, ended)
  termination_by text => text.length

def argumentText (printer : Printer) (text : List Char) : List UInt8 × Option Escaped :=
  unescaped (argumentEscape printer) (length_argumentEscape_le printer) text

/-! ## Conversions -/

/-- A width or precision: written in the format, or the next argument. -/
inductive Size
  | fixed (n : Nat)
  | argument

/-- A conversion as a format writes it. Its kind is the zero character where the format ends
before one. -/
structure Conversion where
  flags : List Char
  width : Option Size
  precision : Option Size
  kind : Char
  text : List Char

inductive Part
  | bytes (bytes : List UInt8)
  | stop
  | fault (text : String)
  | convert (c : Conversion)

/-- Reads a width or the digits of a precision. -/
def size (text : List Char) : Option Size × List Char :=
  match text with
  | '*' :: rest => (some .argument, rest)
  | _ =>
    let (n, rest) := Numeral.digits 10 text.length 0 text
    (if rest.length = text.length then none else some (.fixed n), rest)

def flagChars : Printer → List Char
  | .program => ['-', '+', ' ', '#', '0', '\x27', 'I']
  | .shell => ['-', '+', ' ', '#', '0']

/-- The letters for the length of a number, which mean nothing here. -/
def lengthChars : Printer → List Char
  | .program => ['l', 'L', 'h', 'j', 't', 'z']
  | .shell => []

/-- Reads the conversion behind a percent sign. -/
def conversion (printer : Printer) (text : List Char) : Conversion × List Char :=
  let flags := text.takeWhile (flagChars printer).contains
  let (width, rest) := size (text.dropWhile (flagChars printer).contains)
  let (precision, rest) := match rest with
    | '.' :: more =>
      let (p, rest) := size more
      (some (p.getD (.fixed 0)), rest)
    | _ => (none, rest)
  match rest.dropWhile (lengthChars printer).contains with
  | kind :: after =>
    let read := '%' :: text.take (text.length - after.length)
    ({ flags, width, precision, kind, text := read }, after)
  | [] => ({ flags, width, precision, kind := '\x00', text := '%' :: text }, [])

/-- The kinds of conversions that a printer knows. -/
def kinds : List Char :=
  ['s', 'c', 'd', 'i', 'o', 'u', 'x', 'X', 'a', 'A', 'e', 'E', 'f', 'F', 'g', 'G']

/-- The kinds that a flag may not stand with. -/
def refusedBy : Char → List Char
  | '#' => ['c', 'd', 'i', 's', 'u']
  | '0' => ['c', 's']
  | '\x27' | 'I' => ['a', 'A', 'c', 'e', 'E', 'o', 's', 'x', 'X']
  | _ => []

/-- The printer carries out such a conversion. -/
def Conversion.isKnown (c : Conversion) : Printer → Bool
  | .shell => c.kind == 'b' || kinds.contains c.kind
  | .program =>
    ((c.kind == 'b' || c.kind == 'q') && c.text.length == 2) ||
      (kinds.contains c.kind && !(c.flags.any fun f => (refusedBy f).contains c.kind) &&
        !(c.kind == 'c' && c.precision.isSome))

/-- The complaint about a conversion that is not carried out. -/
def Conversion.fault (c : Conversion) : Printer → String
  | .program => String.ofList c.text ++ ": invalid conversion specification"
  | .shell =>
    if c.kind = '\x00' then "missing format character"
    else String.ofList c.text ++ ": invalid directive"

/-- The parts of a format; `fuel` is its length. -/
def parts (printer : Printer) : Nat → List Char → List Part
  | 0, _ => []
  | _ + 1, [] => []
  | fuel + 1, '%' :: '%' :: rest => .bytes [37] :: parts printer fuel rest
  | fuel + 1, '%' :: rest =>
    let (c, after) := conversion printer rest
    .convert c :: if c.isKnown printer then parts printer fuel after else []
  | fuel + 1, '\\' :: rest =>
    match escape printer rest with
    | (.stop, _) => [.stop]
    | (.fault text, _) => [.fault text]
    | (.bytes bytes, after) => .bytes bytes :: parts printer fuel after
  | fuel + 1, c :: rest => .bytes [UInt8.ofNat c.toNat] :: parts printer fuel rest

/-! ## Output -/

/-- How a conversion pads, with all sizes known. -/
structure Layout where
  left : Bool
  zeros : Bool
  plus : Bool
  space : Bool
  alternative : Bool
  width : Nat
  precision : Option Nat

/-- Fills up to the width of a layout; zeros go behind the sign and the mark of the base, the
beginning of the text. -/
def Layout.pad (l : Layout) (zeros : Bool) (start : Nat) (bytes : List UInt8) : List UInt8 :=
  let fill := l.width - bytes.length
  if l.left then bytes ++ List.replicate fill 32
  else if zeros then bytes.take start ++ List.replicate fill 48 ++ bytes.drop start
  else List.replicate fill 32 ++ bytes

def Layout.sign (l : Layout) (negative : Bool) : List Char :=
  if negative then ['-'] else if l.plus then ['+'] else if l.space then [' '] else []

/-- Digits with the zeros that the precision asks for; zero itself has no digits where none are
asked for. -/
def Layout.digits (l : Layout) (ds : List Char) : List Char :=
  match l.precision with
  | some p => Fixed.padded p (if ds = ['0'] then [] else ds)
  | none => ds

def Layout.number (l : Layout) (sign ds : List Char) : List UInt8 :=
  l.pad (l.zeros && l.precision.isNone) sign.length (Text.octetBytes (sign ++ ds))

def Layout.signed (l : Layout) (n : Int) : List UInt8 :=
  l.number (l.sign (n < 0)) (l.digits (Fixed.digits n.natAbs))

/-- A whole number without a sign, in a base. -/
def Layout.unsigned (l : Layout) (kind : Char) (n : Nat) : List UInt8 :=
  let upper (cs : List Char) : List Char := if kind = 'X' then cs.map Char.toUpper else cs
  if kind = 'o' then
    let ds := l.digits (Nat.toDigits 8 n)
    l.number [] (if l.alternative ∧ ds.head? ≠ some '0' then '0' :: ds else ds)
  else if kind = 'u' then l.number [] (l.digits (Fixed.digits n))
  else
    l.number (upper (if l.alternative ∧ n ≠ 0 then ['0', 'x'] else []))
      (upper (l.digits (Nat.toDigits 16 n)))

/-- The digits of a binary fraction without its sign. -/
def Layout.fractionDigits (l : Layout) (printer : Printer) (kind : Char) (mantissa : Nat)
    (exponent : Int) : List Char :=
  let (num, den) := scaled 2 exponent mantissa 1
  let precision := l.precision.getD 6
  if kind = 'a' then
    Hexadecimal.written printer.precision printer.leadingBits l.precision l.alternative
      mantissa exponent
  else if kind = 'e' then Fixed.scientific precision l.alternative num den
  else if kind = 'f' then Fixed.fixed precision l.alternative num den
  else Fixed.general precision l.alternative num den

def Layout.fraction (l : Layout) (printer : Printer) (kind : Char) (negative : Bool)
    (m : Magnitude) : List UInt8 :=
  let written (cs : List Char) : List UInt8 :=
    Text.octetBytes (if kind.isUpper then cs.map Char.toUpper else cs)
  let sign := l.sign negative
  match m with
  | .infinite => l.pad false 0 (written (sign ++ "inf".toList))
  | .notNumber => l.pad false 0 (written (sign ++ "nan".toList))
  | .finite mantissa exponent =>
    let mark := if kind.toLower = 'a' then ['0', 'x'] else []
    l.pad l.zeros (sign.length + mark.length) (written
      (sign ++ mark ++ l.fractionDigits printer kind.toLower mantissa exponent))

/-! ## Printing -/

/-- Printing on its way: the bytes so far (last first), the arguments left, how many were used,
the complaints, and what ended it before its end. -/
structure Progress where
  bytes : List UInt8 := []
  left : List String
  used : Nat := 0
  complaints : List String := []
  failed : Bool := false
  ended : Option Escaped := none

namespace Progress

def put (p : Progress) (bytes : List UInt8) : Progress :=
  { p with bytes := bytes.reverse ++ p.bytes }

def next (p : Progress) : Option String × Progress :=
  match p.left with
  | [] => (none, p)
  | a :: rest => (some a, { p with left := rest, used := p.used + 1 })

def complain (p : Progress) (text : String) : Progress :=
  { p with complaints := p.complaints ++ [text], failed := true }

/-- Complains about what was found of a number in an argument. -/
def check {α : Type} (p : Progress) (printer : Printer) (argument : String)
    (f : Numeral.Found α) : Progress :=
  let badEnd (p : Progress) : Progress :=
    if f.rest = [] then p
    else if f.rest = argument.toList then p.complain (printer.notNumeric argument)
    else p.complain (printer.notConverted argument)
  match printer with
  | .program => if f.outOfRange then p.complain (printer.outOfRange argument) else badEnd p
  | .shell =>
    if f.rest = [] ∧ f.outOfRange then p.complain (printer.outOfRange argument) else badEnd p

def characterNumber? (printer : Printer) : List Char → Option (Nat × List Char)
  | '"' :: cs | '\x27' :: cs =>
    match cs, printer with
    | c :: rest, _ => some (c.toNat, rest)
    | [], .shell => some (0, [])
    | [], .program => none
  | _ => none

/-- Takes the next argument as a number that `read` reads; `ofNat` is the number of a
character, which a quote can stand before. -/
def nextNumber {α : Type} (p : Progress) (printer : Printer) (zero : α) (ofNat : Nat → α)
    (read : List Char → Numeral.Found α) : α × Progress :=
  match p.next with
  | (none, p) => (zero, p)
  | (some argument, p) =>
    match characterNumber? printer argument.toList with
    | some (n, rest) =>
      if printer = .program ∧ rest ≠ [] then
        (ofNat n, { p with complaints := p.complaints ++
          ["warning: " ++ String.ofList rest ++
            ": character(s) following character constant have been ignored"] })
      else (ofNat n, p)
    | none =>
      let found := read argument.toList
      (found.value, p.check printer argument found)

/-- Takes the next argument as a number with a sign. -/
def nextInt (p : Progress) (printer : Printer) : Int × Progress :=
  p.nextNumber printer 0 Int.ofNat (Numeral.word Numeral.whole?)

/-- The greatest width and precision. -/
def sizeLimit : Int := 2147483647

/-- Finds out a width or precision; `isWrong` tells which arguments are refused. -/
def sizeOf (p : Progress) (printer : Printer) (name : String) (isWrong : Int → Bool) :
    Option Size → Option Int × Progress
  | none => (none, p)
  | some (.fixed n) =>
    if n < sizeLimit then (some n, p)
    else
      (none, { p with ended := some (.fault (match printer with
        | .program => "write error"
        | .shell => "xvsnprintf failed")) })
  | some .argument =>
    let argument := p.left.head?.getD ""
    let (n, p) := p.nextInt printer
    if printer = .program ∧ isWrong n then
      (none, { p with
        ended := some (.fault ("invalid " ++ name ++ ": " ++ Printer.quoted argument)) })
    else (some n, p)

def convert (p : Progress) (printer : Printer) (c : Conversion) : Progress :=
  let (width, p) := p.sizeOf printer "field width"
    (fun n => n > sizeLimit || n < -sizeLimit - 1) c.width
  let (precision, p) :=
    if p.ended.isSome then (none, p)
    else p.sizeOf printer "precision" (fun n => n > sizeLimit) c.precision
  let width := width.getD 0
  if p.ended.isSome then p
  else if !c.isKnown printer then { p with ended := some (.fault (c.fault printer)) }
  else
    let l : Layout := {
      left := c.flags.contains '-' || width < 0
      zeros := c.flags.contains '0'
      plus := c.flags.contains '+'
      space := c.flags.contains ' '
      alternative := c.flags.contains '#'
      width := width.natAbs
      precision := match precision with
        | some n => if n < 0 then none else some n.toNat
        | none => none }
    let shortened (bytes : List UInt8) : List UInt8 := match l.precision with
      | some n => bytes.take n
      | none => bytes
    if c.kind = 's' then
      let (argument, p) := p.next
      p.put (l.pad false 0 (shortened (Text.octetBytes (argument.getD "").toList)))
    else if c.kind = 'c' then
      let (argument, p) := p.next
      let byte := match (argument.getD "").toList with
        | [] => 0
        | c :: _ => UInt8.ofNat c.toNat
      p.put (l.pad false 0 [byte])
    else if c.kind = 'b' then
      let (argument, p) := p.next
      let (bytes, ended) := argumentText printer (argument.getD "").toList
      { p.put (l.pad false 0 (shortened bytes)) with ended }
    else if c.kind = 'q' then
      let (argument, p) := p.next
      p.put (match argument with
        | some text => Text.octetBytes (Text.shellWord text.toList)
        | none => [])
    else if c.kind = 'd' ∨ c.kind = 'i' then
      let (n, p) := p.nextInt printer
      p.put (l.signed n)
    else if ['o', 'u', 'x', 'X'].contains c.kind then
      let (n, p) := p.nextNumber printer 0 id (Numeral.unsignedWord Numeral.whole?)
      p.put (l.unsigned c.kind n)
    else
      let f := printer.precision
      let (value, p) := p.nextNumber printer (false, .finite 0 0)
        (fun n => (false, (f.nearest n 1).1)) (Numeral.fraction f)
      p.put (l.fraction printer c.kind value.1 value.2)

def take (printer : Printer) (p : Progress) (part : Part) : Progress :=
  if p.ended.isSome then p
  else
    match part with
    | .bytes bytes => p.put bytes
    | .stop => { p with ended := some .stop }
    | .fault text => { p with ended := some (.fault text) }
    | .convert c => p.convert printer c

end Progress

/-- Passes over the format until no arguments are left; `fuel` bounds their number. -/
def passes (printer : Printer) (format : List Part) : Nat → Progress → Progress
  | 0, p => p
  | fuel + 1, p =>
    let p := format.foldl (Progress.take printer) { p with used := 0 }
    if p.ended.isSome || p.left.isEmpty || p.used = 0 then p else passes printer format fuel p

structure Printed where
  bytes : ByteArray
  complaints : List String
  failed : Bool
  fault : Option String

/-- What a format and its arguments print, what is wrong with them, and the fault that ended
the printing. -/
def print (printer : Printer) (format : String) (arguments : List String) : Printed :=
  let text := format.toList
  let p := passes printer (parts printer text.length text) (arguments.length + 1)
    { left := arguments }
  let excess := match printer, p.left, p.ended with
    | .program, a :: _, none =>
      ["warning: ignoring excess arguments, starting with " ++ Printer.quoted a]
    | _, _, _ => []
  { bytes := ⟨p.bytes.reverse.toArray⟩
    complaints := p.complaints ++ excess
    failed := p.failed && !(printer == .program && p.ended matches some .stop)
    fault := match p.ended with
      | some (.fault text) => some text
      | _ => none }

end BuildTool.Formatted
