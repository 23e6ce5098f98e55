import BuildTool.Shell.WordReader

/-!
# Reading scripts

The grammar of the shell: lists of pipelines joined by `;`, `&`, `&&` and `||`, the compound
commands, functions, and simple commands with their assignments and redirections. A script is
read line by line, so that the lines before a fault can still be carried out.

Where a command can begin, keywords are recognized and aliases replaced by their texts. The
readers take fuel, which the length of the script and of the aliases bounds.
-/

namespace BuildTool.Shell

/-- The words with a meaning of their own where a command could begin. -/
def keywords : List String :=
  ["!", "case", "do", "done", "elif", "else", "esac", "fi", "for", "if", "in", "then", "until",
    "while", "\x7b", "\x7d"]

/-- The words that end a list of commands. -/
def closers : List String := ["then", "else", "elif", "fi", "do", "done", "esac", "\x7d"]

/-- The names of commands that no function can have. -/
def specialNames : List String :=
  [".", ":", "break", "continue", "eval", "exec", "exit", "export", "readonly", "return", "set",
    "shift", "times", "trap", "unset"]

/-- How a complaint calls a token. -/
def Token.describe : Token → String
  | .word _ => "word"
  | .keyword s | .operator s => "\"" ++ s ++ "\""
  | .redirection .. | .copying _ | .announcement .. => "redirection"
  | .newline => "newline"
  | .finish => "end of file"

/-- A list of commands ends before the token. -/
def Token.closes : Token → Bool
  | .finish => true
  | .operator s => s == ")" || s == ";;"
  | .keyword s => closers.contains s
  | _ => false

/-- Refuses a token where another was wanted, if only one could stand there. -/
def unexpected {α : Type} (t : Token) (wanted : Option String) : Reader α :=
  faultHere (t.describe ++ " unexpected" ++ match wanted with
    | some w => " (expecting \"" ++ w ++ "\")"
    | none => "")

/-! ## Tokens -/

/-- Goes past blanks and comments. -/
def skipBlanks : Nat → Reader Unit
  | 0 => return ()
  | fuel + 1 => do
    match ← peek with
    | some ' ' | some '\t' =>
      drop
      skipBlanks fuel
    | some '#' => modify fun c => c.advance (c.text.takeWhile (· != '\n')).length
    | _ => return ()

/-- Takes an operator that begins with a character and may be doubled. -/
def doubled (c : Char) : Reader String := do
  drop
  if (← peek) = some c then
    drop
    return String.ofList [c, c]
  else return String.singleton c

/-- Reads a redirection operator behind the number of a stream. -/
def redirection (stream : Option Nat) : Reader Token := do
  let first ← peek
  drop
  let second ← peek
  if first = some '>' then
    let stream := stream.getD 1
    match second with
    | some '>' =>
      drop
      return .redirection stream .append
    | some '|' =>
      drop
      return .redirection stream .force
    | some '&' =>
      drop
      return .copying stream
    | _ => return .redirection stream .write
  else
    let stream := stream.getD 0
    match second with
    | some '<' =>
      drop
      if (← peek) = some '-' then
        drop
        return .announcement stream true
      else return .announcement stream false
    | some '&' =>
      drop
      return .copying stream
    | some '>' =>
      drop
      return .redirection stream .both
    | _ => return .redirection stream .read

/-- Takes the lines of a here-document in which nothing is substituted, and its delimiter. -/
def documentText (a : Announced) : Nat → Reader (List Char)
  | 0 => return []
  | fuel + 1 => do
    if ← documentEnds a then return []
    else
      let c ← get
      let line := c.text.takeWhile (· != '\n')
      let lineEnd := (c.text.drop line.length).take 1
      set (c.advance (line.length + 1))
      return line ++ lineEnd ++ (← documentText a fuel)

/-- Reads the lines of a here-document with substitutions, and its delimiter. -/
def documentParts (inside : Inside) (a : Announced) (fuel : Nat) : Nat → Reader Word
  | 0 => return []
  | n + 1 => do
    if ← documentEnds a then return []
    else
      let parts ← readParts inside .document fuel
      if (← get).text = [] then return parts
      else
        drop
        return parts ++ .quoted "\n" :: (← documentParts inside a fuel n)

/-- Reads the announced here-documents, which begin after a line end. -/
def readDocuments (inside : Inside) (fuel : Nat) : List Announced → Reader Unit
  | [] => return ()
  | a :: more => do
    let lines := (← left) + 1
    let w ← if a.substitutes then do
        modify fun c => { c with document := some a }
        let w ← documentParts inside a fuel lines
        modify fun c => { c with document := none }
        pure w
      else do pure [.quoted (String.ofList (← documentText a lines))]
    modify fun c => { c with documents := (a.number, w) :: c.documents }
    readDocuments inside fuel more

def readPending (inside : Inside) (fuel : Nat) : Reader Unit := do
  let due := (← get).announced
  modify fun c => { c with announced := [] }
  readDocuments inside fuel due

def readToken (inside : Inside) (context : Context) (fuel : Nat) : Reader Token := do
  skipBlanks ((← left) + 1)
  match ← peek with
  | none => return .finish
  | some c =>
    if c = '\n' then
      drop
      return .newline
    else if c = '&' ∨ c = '|' ∨ c = ';' then return .operator (← doubled c)
    else if c = '(' ∨ c = ')' then
      drop
      return .operator (String.singleton c)
    else
      let w ← readParts inside context fuel
      match w, ← peek with
      | [], some '<' | [], some '>' => redirection none
      | [.literal s], some '<' | [.literal s], some '>' =>
        match s.toList with
        | [d] => if d.isDigit then redirection (some (d.toNat - '0'.toNat)) else return .word w
        | _ => return .word w
      | w, _ => return .word w

/-- What is done with the next token: line ends before it are skipped, it can be a keyword, and
it can be an alias. -/
structure Expected where
  skipsLines : Bool := false
  keywords : Bool := false
  aliases : Bool := false

def asItStands : Expected := {}

def atCommand : Expected := { keywords := true, aliases := true }

/-- A token where a command can begin, perhaps on a later line. -/
def atLaterCommand : Expected := { skipsLines := true, keywords := true, aliases := true }

def putBack (t : Token) : Reader Unit := modify fun c => { c with pushed := some t }

/-- The token that was put back, or the next one. -/
def rawToken (inside : Inside) (fuel : Nat) : Reader Token := do
  match (← get).pushed with
  | some t =>
    modify fun c => { c with pushed := none }
    return t
  | none => readToken inside .plain fuel

/-- A token behind line ends and the here-documents that follow them. -/
def pastNewlines (inside : Inside) (fuel : Nat) : Nat → Reader Token
  | 0 => return .finish
  | n + 1 => do
    match ← rawToken inside fuel with
    | .newline =>
      readPending inside fuel
      pastNewlines inside fuel n
    | t => return t

/-- Puts the text of an alias in front of the rest. -/
def insertAlias (name text : String) : Reader Unit :=
  modify fun c =>
    let widens := text.toList.getLast?.any fun d => d == ' ' || d == '\t'
    let active : ActiveAlias := { name, left := c.text.length, widens }
    { c with text := text.toList ++ c.text, active := active :: c.active }

/-- Reads a token as it is expected there. Behind an alias whose text ends in a blank the next
word can be an alias as well. -/
def nextToken (inside : Inside) (fuel : Nat) (expected : Expected) : Nat → Reader Token
  | 0 => return .finish
  | n + 1 => do
    let before ← get
    let t ← if expected.skipsLines then pastNewlines inside fuel ((← left) + 2)
      else rawToken inside fuel
    let c ← get
    let ended := before.active.filter fun a => c.text.length < a.left
    let widened := before.pushed.isNone && ended.any (·.widens)
    let active := c.active.filter fun a => a.left ≤ c.text.length
    set { c with active := if before.pushed.isSome then c.active else active }
    match t with
    | .word [.literal s] =>
      if expected.keywords ∧ keywords.contains s then return .keyword s
      else if expected.aliases ∨ widened then
        match c.aliases.lookup s with
        | some text =>
          if active.any (·.name == s) then return t
          else
            insertAlias s text
            nextToken inside fuel expected n
        | none => return t
      else return t
    | t => return t

def token (inside : Inside) (fuel : Nat) (expected : Expected) : Reader Token :=
  nextToken inside fuel expected 1000

/-- Takes a keyword or operator that must stand here. -/
def demand (inside : Inside) (fuel : Nat) (expected : Expected) (wanted : String) :
    Reader Unit := do
  match ← token inside fuel expected with
  | .keyword s | .operator s =>
    if s ≠ wanted then unexpected (.operator s) (some wanted)
  | t => unexpected t (some wanted)

/-! ## Commands -/

def readTarget (inside : Inside) (fuel : Nat) : Token → Reader Redirection
  | .announcement stream strips => do
    skipBlanks ((← left) + 1)
    match ← readToken inside .delimiter fuel with
    | .word w =>
      let delimiter := String.join (w.map fun part =>
        match part with
        | .literal s | .quoted s => s
        | _ => "")
      let number := (← get).nextDocument
      modify fun c => { c with
        nextDocument := number + 1
        announced := c.announced ++
          [{ number, delimiter := delimiter.toList, substitutes := !isQuoted w, strips }] }
      return .document stream number
    | t => unexpected t none
  | t => do
    match ← token inside fuel asItStands with
    | .word w =>
      match t with
      | .copying stream => return .copy stream w
      | .redirection stream mode => return .file stream mode w
      | t => unexpected t none
    | other => unexpected other none

/-- Reads redirections after a compound command. Only the first token behind it may be a keyword
or an alias. -/
def redirections (inside : Inside) (fuel : Nat) : Nat → Expected → Reader (List Redirection)
  | 0, _ => return []
  | n + 1, expected => do
    let more (t : Token) : Reader (List Redirection) := do
      let r ← readTarget inside fuel t
      return r :: (← redirections inside fuel n asItStands)
    match ← token inside fuel expected with
    | .redirection stream mode => more (.redirection stream mode)
    | .copying stream => more (.copying stream)
    | .announcement stream strips => more (.announcement stream strips)
    | t =>
      putBack t
      return []

def closed (inside : Inside) (fuel line : Nat) (c : Command) : Reader Command := do
  match ← redirections inside fuel ((← left) + 1) atCommand with
  | [] => return c
  | rs =>
    match c with
    | .subshell line body _ => return .subshell line body rs
    | c => return .redirected line c rs

/-- The words up to the end of a list of words, which is taken. -/
def wordsUntilEnd (inside : Inside) (fuel : Nat) : Nat → Reader (List Word)
  | 0 => return []
  | n + 1 => do
    match ← token inside fuel asItStands with
    | .word w => return w :: (← wordsUntilEnd inside fuel n)
    | .newline | .operator ";" => return []
    | t => unexpected t none

/-- The word in a token: that of a keyword too. -/
def Token.word? : Token → Option Word
  | .word w => some w
  | .keyword s => some [.literal s]
  | _ => none

/-- The patterns of an arm behind its first token, up to the closing parenthesis. -/
def armPatterns (inside : Inside) (fuel : Nat) : Nat → Token → Reader (List Word)
  | 0, _ => return []
  | n + 1, t => do
    let w := t.word?.getD []
    match ← token inside fuel asItStands with
    | .operator "|" => return w :: (← armPatterns inside fuel n (← token inside fuel asItStands))
    | .operator ")" => return [w]
    | other => unexpected other (some ")")

structure SimpleParts where
  assignments : List (String × Word) := []
  words : List Word := []
  redirections : List Redirection := []

/-- Reads the rest of a simple command. The token that ended it is put back; the flag tells
that it is a parenthesis behind a single word. -/
def simpleParts (inside : Inside) (fuel : Nat) : Nat → SimpleParts → Reader (SimpleParts × Bool)
  | 0, p => return (p, false)
  | n + 1, p => do
    let more (t : Token) : Reader (SimpleParts × Bool) := do
      let r ← readTarget inside fuel t
      simpleParts inside fuel n { p with redirections := p.redirections ++ [r] }
    match ← token inside fuel { aliases := p.words.isEmpty } with
    | .word w =>
      match p.words, assignment? w with
      | [], some a => simpleParts inside fuel n { p with assignments := p.assignments ++ [a] }
      | _, _ => simpleParts inside fuel n { p with words := p.words ++ [w] }
    | .redirection stream mode => more (.redirection stream mode)
    | .copying stream => more (.copying stream)
    | .announcement stream strips => more (.announcement stream strips)
    | t =>
      let isFunction := match t with
        | .operator "(" =>
          p.words.length == 1 && p.assignments.isEmpty && p.redirections.isEmpty
        | _ => false
      putBack t
      return (p, isFunction)

mutual

/-- How commands inside of words are read. -/
def insideWith : Nat → Inside
  | 0 =>
    { parenthesized := faultHere openQuote, backquoted := fun _ => faultHere openQuote }
  | fuel + 1 =>
    { parenthesized := do
        let outer ← get
        set { outer with announced := [], pushed := none, document := none }
        let body ← readList fuel true
        match ← token (insideWith fuel) fuel asItStands with
        | .operator ")" =>
          let due := (← get).announced
          modify fun c => { c with
            documents := due.map (fun a => (a.number, [])) ++ c.documents
            announced := outer.announced
            document := outer.document
            pushed := none }
          return body
        | t => unexpected t (some ")")
      backquoted := fun text => do
        let outer ← get
        set { outer with
          text, line := 1, announced := [], pushed := none, document := none, active := [] }
        let body ← readList fuel true
        modify fun c => { outer with documents := c.documents, nextDocument := c.nextDocument }
        return body }

/-- Reads a list of commands up to what closes it, which is put back; it has to hold a command
unless it may be empty. -/
def readList : Nat → Bool → Reader Command
  | 0, _ => faultHere openQuote
  | fuel + 1, mayBeEmpty => do
    let t ← token (insideWith fuel) fuel atLaterCommand
    putBack t
    match t with
    | .finish => return .nothing
    | t =>
      if mayBeEmpty ∧ t.closes then return .nothing
      else
        let first ← readAndOr fuel
        match ← token (insideWith fuel) fuel asItStands with
        | .operator "&" => return Command.before (.background first) (← readList fuel true)
        | .operator ";" => return first.before (← readList fuel true)
        | .newline =>
          putBack .newline
          return first.before (← readList fuel true)
        | t =>
          putBack t
          return first

/-- Reads pipelines joined by `&&` and `||`. -/
def readAndOr : Nat → Reader Command
  | 0 => faultHere openQuote
  | fuel + 1 => do
    let first ← readPipeline fuel
    readAndOrFrom fuel first

/-- Reads more pipelines onto a command. -/
def readAndOrFrom : Nat → Command → Reader Command
  | 0, _ => faultHere openQuote
  | fuel + 1, first => do
    match ← token (insideWith fuel) fuel asItStands with
    | .operator "&&" =>
      putBack (← token (insideWith fuel) fuel atLaterCommand)
      readAndOrFrom fuel (.both first (← readPipeline fuel))
    | .operator "||" =>
      putBack (← token (insideWith fuel) fuel atLaterCommand)
      readAndOrFrom fuel (.either first (← readPipeline fuel))
    | t =>
      putBack t
      return first

/-- Reads a pipeline, whose first token was read as one where a command can begin. -/
def readPipeline : Nat → Reader Command
  | 0 => faultHere openQuote
  | fuel + 1 => do
    match ← token (insideWith fuel) fuel asItStands with
    | .keyword "!" => return .negate (← readStages fuel atCommand)
    | t =>
      putBack t
      readStages fuel asItStands

def readStages : Nat → Expected → Reader Command
  | 0, _ => faultHere openQuote
  | fuel + 1, expected => do
    let first ← readCommand fuel expected
    match ← readMoreStages fuel with
    | [] => return first
    | more => return .pipeline (first :: more)

/-- Reads the stages of a pipeline behind the first. -/
def readMoreStages : Nat → Reader (List Command)
  | 0 => return []
  | fuel + 1 => do
    match ← token (insideWith fuel) fuel asItStands with
    | .operator "|" =>
      let stage ← readCommand fuel atLaterCommand
      return stage :: (← readMoreStages fuel)
    | t =>
      putBack t
      return []

/-- Reads a compound or simple command whose first token is expected so. A compound command
has the line before its first token, a simple one that behind it. -/
def readCommand : Nat → Expected → Reader Command
  | 0, _ => faultHere openQuote
  | fuel + 1, expected => do
    let inside := insideWith fuel
    let line := (← get).line
    match ← token inside fuel expected with
    | .operator "(" =>
      let body ← readList fuel false
      demand inside fuel asItStands ")"
      closed inside fuel line (.subshell line body [])
    | .keyword "\x7b" =>
      let body ← readList fuel false
      demand inside fuel asItStands "\x7d"
      closed inside fuel line body
    | .keyword "if" =>
      let c ← readIf fuel
      demand inside fuel asItStands "fi"
      closed inside fuel line c
    | .keyword "while" => readLoop fuel false line
    | .keyword "until" => readLoop fuel true line
    | .keyword "for" =>
      match ← token inside fuel asItStands with
      | .word [.literal name] =>
        if !isName name then faultHere "Bad for loop variable"
        else
          let words ← match ← token inside fuel atLaterCommand with
            | .keyword "in" => wordsUntilEnd inside fuel ((← left) + 1)
            | .operator ";" => pure [[.parameter "@" .value true]]
            | t => do
              putBack t
              pure [[.parameter "@" .value true]]
          demand inside fuel atLaterCommand "do"
          let body ← readList fuel false
          demand inside fuel asItStands "done"
          closed inside fuel line (.each line name words body)
      | _ => faultHere "Bad for loop variable"
    | .keyword "case" =>
      match ← token inside fuel asItStands with
      | .word subject =>
        demand inside fuel atLaterCommand "in"
        let arms ← readArms fuel
        closed inside fuel line (.select line subject arms)
      | t => faultHere (t.describe ++ " unexpected (expecting word)")
    | .word w =>
      putBack (.word w)
      readSimple fuel
    | .redirection stream mode =>
      putBack (.redirection stream mode)
      readSimple fuel
    | .copying stream =>
      putBack (.copying stream)
      readSimple fuel
    | .announcement stream strips =>
      putBack (.announcement stream strips)
      readSimple fuel
    | t => unexpected t none

def readSimple : Nat → Reader Command
  | 0 => faultHere openQuote
  | fuel + 1 => do
    let inside := insideWith fuel
    let line := (← get).line
    let (p, isFunction) ← simpleParts inside fuel ((← left) + 2) {}
    if isFunction then
      let _ ← token inside fuel asItStands
      demand inside fuel asItStands ")"
      let name := match p.words with
        | [[.literal s]] => s
        | _ => ""
      if !isName name ∨ specialNames.contains name then faultHere "Bad function name"
      else
        return .define name (← readCommand fuel atLaterCommand)
    else return .simple line p.assignments p.words p.redirections

/-- Reads what follows `if` or `elif`, up to `fi`. -/
def readIf : Nat → Reader Command
  | 0 => faultHere openQuote
  | fuel + 1 => do
    let inside := insideWith fuel
    let condition ← readList fuel false
    demand inside fuel asItStands "then"
    let yes ← readList fuel false
    match ← token inside fuel asItStands with
    | .keyword "elif" => return .branch condition yes (← readIf fuel)
    | .keyword "else" => return .branch condition yes (← readList fuel false)
    | t =>
      putBack t
      return .branch condition yes .nothing

def readLoop : Nat → Bool → Nat → Reader Command
  | 0, _, _ => faultHere openQuote
  | fuel + 1, until_, line => do
    let inside := insideWith fuel
    let condition ← readList fuel false
    demand inside fuel asItStands "do"
    let body ← readList fuel false
    demand inside fuel asItStands "done"
    closed inside fuel line (.loop until_ condition body)

/-- Reads the arms after `in`, and `esac`. -/
def readArms : Nat → Reader (List (List Word × Command))
  | 0 => faultHere openQuote
  | fuel + 1 => do
    let inside := insideWith fuel
    match ← token inside fuel { skipsLines := true, keywords := true } with
    | .keyword "esac" => return []
    | t =>
      let t ← match t with
        | .operator "(" => token inside fuel asItStands
        | t => pure t
      let patterns ← armPatterns inside fuel ((← left) + 1) t
      let body ← readList fuel true
      match ← token inside fuel { skipsLines := true, keywords := true } with
      | .keyword "esac" => return [(patterns, body)]
      | .operator ";;" => return (patterns, body) :: (← readArms fuel)
      | t => unexpected t (some ";;")

end

/-! ## Lines -/

def readLineFrom (fuel : Nat) : Nat → Command → Reader Command
  | 0, before => return before
  | n + 1, before => do
    let inside := insideWith fuel
    match ← token inside fuel atCommand with
    | .newline =>
      readPending inside fuel
      return before
    | .finish =>
      putBack .finish
      return before
    | t =>
      putBack t
      let c ← readAndOr fuel
      let next (c : Command) : Command :=
        match before with
        | .nothing => c
        | before => before.before c
      match ← token inside fuel asItStands with
      | .operator "&" => readLineFrom fuel n (next (.background c))
      | .operator ";" => readLineFrom fuel n (next c)
      | .newline =>
        readPending inside fuel
        return next c
      | .finish =>
        putBack .finish
        return next c
      | t => unexpected t none

inductive Line
  | command (c : Command) (rest : Cursor)
  | done
  | fault (f : SyntaxFault)

def Cursor.fuel (c : Cursor) : Nat :=
  let texts := c.aliases.foldl (fun n a => n + a.2.length) 1
  20 * (c.text.length + 50) * texts

/-- Reads the next line of a script. -/
def Cursor.nextLine (c : Cursor) : Line :=
  if c.text = [] then .done
  else
    let fuel := c.fuel
    match readLineFrom fuel fuel .nothing c with
    | .error f => .fault f
    | .ok (command, rest) =>
      .command command { rest with pushed := none, active := [] }

end BuildTool.Shell
