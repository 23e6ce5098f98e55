import BuildTool.Http.Host

/-!
# Web addresses

An address is read as browsers read it: blanks at its ends do not count, the scheme is in small
letters, `.` and `..` are taken out of the path, and characters that an address cannot hold are
written as percent signs and digits. In the schemes of the web backslashes are slashes, and hosts
have one form. What a user name or a password in an address says is not kept.

    HTTP:\\Host:80\a\..\b c   is   http://host/b%20c
-/

namespace BuildTool

/-- An address. One without a host has none of the two slashes; its path need not begin with a
slash. -/
structure Url where
  scheme : String
  credentials : String := ""
  host : Option String := none
  port : Option Nat := none
  path : String
  query : Option String := none
  fragment : Option String := none
  deriving DecidableEq, Repr

namespace Url

/-- An address as text. A path that begins with two slashes has a point put in front of it where
it would be taken for a host. -/
def text (u : Url) : String :=
  u.scheme ++ ":" ++
    (match u.host with
      | some host => "//" ++ u.credentials ++ host
      | none => if Text.startsWith "//" u.path then "/." else "") ++
    (match u.port with | some n => ":" ++ toString n | none => "") ++ u.path ++
    (match u.query with | some q => "?" ++ q | none => "") ++
    (match u.fragment with | some f => "#" ++ f | none => "")

def request (u : Url) : String :=
  u.path ++ (match u.query with | some q => "?" ++ q | none => "")

/-- The address can be sent to a server: its scheme leads to one, it is not too long, and its host
has no character that a request cannot hold. -/
def canBeSent (u : Url) : Bool :=
  (u.scheme == "http" || u.scheme == "https") && u.text.utf8ByteSize ≤ 65534 &&
    !(u.host.getD "").toList.any ("\"\x60\x7b\x7d".toList.contains ·)

/-! ## Schemes -/

/-- The kinds of schemes: files, the other ones of the web, and all others. -/
inductive Kind
  | file
  | web
  | other
  deriving DecidableEq, Repr

def usualPorts : List (String × Nat) :=
  [("http", 80), ("https", 443), ("ws", 80), ("wss", 443), ("ftp", 21)]

def kindOf (scheme : String) : Kind :=
  if scheme = "file" then .file
  else if (usualPorts.lookup scheme).isSome then .web
  else .other

def Kind.isSlash (k : Kind) (c : Char) : Bool := c == '/' || (c == '\\' && k != .other)

/-! ## Characters -/

def fragmentSpecial : List Char := [' ', '"', '<', '>', '\x60']

def pathSpecial : List Char := fragmentSpecial ++ ['#', '?', '\x7b', '\x7d']

/-- The characters that user names and passwords cannot hold. -/
def credentialSpecial : List Char :=
  pathSpecial ++ ['/', ':', ';', '=', '@', '[', '\\', ']', '^', '|']

def querySpecial (k : Kind) : List Char :=
  [' ', '"', '<', '>', '#'] ++ if k = .other then [] else ['\x27']

/-! ## Paths -/

def dots : List (List Char) := [['.'], "%2e".toList]

/-- The name of a drive: a letter and a colon, or a bar in its place. -/
def isDrive : List Char → Bool
  | [letter, mark] => letter.isAlpha && (mark == ':' || mark == '|')
  | _ => false

/-- A path while it is read: its elements, last first, and whether the host stays. -/
structure Route where
  elements : List (List Char) := []
  keepsHost : Bool := true

/-- Takes the last element off, unless it is a drive. -/
def Route.up (r : Route) : Route :=
  match r.elements with
  | last :: rest => if isDrive last then r else { r with elements := rest }
  | [] => r

/-- Takes one element onto a path. A drive that a file's path begins with is written with a colon
and has no host. -/
def Route.take (k : Kind) (isLast : Bool) (r : Route) (element : List Char) : Route :=
  let small := element.map Char.toLower
  let close (r : Route) : Route :=
    if isLast then { r with elements := [] :: r.elements } else r
  if small ∈ dots then close r
  else if small ∈ dots.flatMap fun a => dots.map (a ++ ·) then close r.up
  else if k = .file ∧ r.elements.isEmpty ∧ isDrive element then
    { elements := [element.head?.getD ' ', ':'] :: r.elements, keepsHost := false }
  else { r with elements := Text.percentEncode pathSpecial element :: r.elements }

/-- Reads the path between the host and the query. The path of a file does not begin with two
slashes. -/
def readPath (k : Kind) (s : List Char) : String × Bool :=
  if s.isEmpty ∧ k = .other then ("", true)
  else
    let s := match s with
      | c :: rest => if k.isSlash c then rest else s
      | [] => []
    let elements := Text.splitChar '/' (s.map fun c => if k.isSlash c then '/' else c)
    let front := elements.dropLast.foldl (Route.take k false) {}
    let r := front.take k true (elements.getLast?.getD [])
    let path := r.elements.reverse.flatMap fun e => '/' :: e
    let path := if k = .file then '/' :: path.dropWhile (· == '/') else path
    (String.ofList path, r.keepsHost)

/-! ## Addresses -/

/-- Splits off a scheme. -/
def scheme? (s : List Char) : Option (String × List Char) :=
  match Text.cutChar? ':' s with
  | some (name, rest) =>
    let isPart (c : Char) : Bool := c.isAlphanum || c == '+' || c == '-' || c == '.'
    if name.head?.any Char.isAlpha ∧ name.all isPart then
      some (String.ofList (name.map Char.toLower), rest)
    else none
  | none => none

/-- The user name and password that stay in an address, because what they say cannot be read. -/
def keptCredentials (s : List Char) : String :=
  let (user, password) := (Text.cutChar? ':' s).getD (s, [])
  let isText (s : List Char) : Bool :=
    (String.fromUTF8? ⟨(Text.percentDecode s).toArray⟩).isSome
  let encode (s : List Char) : String := String.ofList (Text.percentEncode credentialSpecial s)
  let isRead := isText user ∧ (!user.isEmpty ∨ password.isEmpty ∨ isText password)
  if isRead then ""
  else encode user ++ (if password.isEmpty then "" else ":" ++ encode password) ++ "@"

/-- Splits a host from the port behind it; a colon in brackets does not count. -/
def splitPort (inBrackets : Bool) : List Char → List Char × Option (List Char)
  | [] => ([], none)
  | c :: rest =>
    if c = ':' ∧ !inBrackets then ([], some rest)
    else
      let inBrackets := if c = '[' then true else if c = ']' then false else inBrackets
      let (host, port) := splitPort inBrackets rest
      (c :: host, port)

/-- Reads a port; none is meant where no digit stands. -/
def port? (scheme : String) (digits : List Char) : Option (Option Nat) :=
  let port := digits.foldl (fun n c => n * 10 + (c.toNat - '0'.toNat)) 0
  if !digits.all Char.isDigit ∨ 65535 < port then none
  else if digits.isEmpty ∨ usualPorts.lookup scheme = some port then some none
  else some (some port)

/-- Reads a host and the port behind it. -/
def hostAndPort? (scheme : String) (s : List Char) : Option (String × Option Nat) := do
  let (host, port) := splitPort false s
  if host.isEmpty then
    if kindOf scheme = .other ∧ port.isNone then some ("", none) else none
  else
    let host ← if kindOf scheme = .other then Http.Host.anyText? host else Http.Host.named? host
    match port with
    | none => some (host, none)
    | some digits => return (host, ← port? scheme digits)

/-- An address with the query and fragment behind a path. -/
def withRest (u : Url) (s : List Char) : Url :=
  let query := s.takeWhile (· != '#')
  let fragment := (s.dropWhile (· != '#')).tail?
  { u with
    query := query.tail?.map fun q =>
      String.ofList (Text.percentEncode (querySpecial (kindOf u.scheme)) q)
    fragment := fragment.map fun f => String.ofList (Text.percentEncode fragmentSpecial f) }

def endsPath (c : Char) : Bool := c == '?' || c == '#'

/-- Reads what follows the two slashes in front of a host. -/
def readAuthority? (scheme : String) (s : List Char) : Option Url := do
  let k := kindOf scheme
  let isEnd (c : Char) : Bool := k.isSlash c || endsPath c
  let authority := s.takeWhile (!isEnd ·)
  let rest := s.dropWhile (!isEnd ·)
  let place := (authority.reverse.takeWhile (· != '@')).reverse
  let user := (authority.take (authority.length - place.length)).dropLast
  let (place, rest) := match k, splitPort false place with
    | .other, (host, some port) =>
      let digits := port.takeWhile (· != '\\')
      (host ++ ':' :: digits, port.drop digits.length ++ rest)
    | _, _ => (place, rest)
  let (host, port) ← hostAndPort? scheme place
  if host.isEmpty ∧ (!user.isEmpty ∨ place.length < authority.length) then none
  let path := (readPath k (rest.takeWhile (!endsPath ·))).1
  return withRest { scheme, credentials := keptCredentials user, host := some host, port, path }
    (rest.dropWhile (!endsPath ·))

/-- Reads what follows the scheme of a file. -/
def readFile? (s : List Char) : Option Url := do
  let isSlash := Kind.file.isSlash
  let before := s.takeWhile (!endsPath ·)
  let rest := s.dropWhile (!endsPath ·)
  let address (host : String) (path : List Char) : Url :=
    let (path, keepsHost) := readPath .file path
    withRest { scheme := "file", host := some (if keepsHost then host else ""), path } rest
  if 2 ≤ (before.takeWhile isSlash).length then
    let host := (before.drop 2).takeWhile (!isSlash ·)
    if host.isEmpty ∨ isDrive host then some (address "" (before.drop 2))
    else
      let name ← Http.Host.named? host
      some (address (if name = "localhost" then "" else name) (before.drop (2 + host.length)))
  else some (address "" before)

def readOther? (scheme : String) (s : List Char) : Option Url :=
  match s with
  | '/' :: '/' :: rest => readAuthority? scheme rest
  | _ =>
    let before := s.takeWhile (!endsPath ·)
    let path :=
      if before.head? = some '/' then (readPath .other before).1
      else String.ofList (Text.percentEncode [] before)
    some (withRest { scheme, path } (s.dropWhile (!endsPath ·)))

def read? (address : String) : Option Url :=
  let isEdge (c : Char) : Bool := decide (c.toNat ≤ 32)
  let s := (Text.trimBoth isEdge address.toList).filter fun c =>
    c ≠ '\t' ∧ c ≠ '\n' ∧ c ≠ '\r'
  match scheme? s with
  | none => none
  | some (scheme, rest) =>
    match kindOf scheme with
    | .file => readFile? rest
    | .web => readAuthority? scheme (rest.dropWhile Kind.web.isSlash)
    | .other => readOther? scheme rest

end Url

end BuildTool
