import BuildTool.Files.Disk
import BuildTool.Toml.Parser

/-!
# Settings

What a user sets once for all builds: how often watched files are looked at, how servers are
asked, and whether log lines have colours.

Settings come from a file in the user's home directory or from one that is named. Whatever the
file does not mention keeps its usual value, and so does everything if there is no file. A group
may also be written as a list of its values in their order.
-/

namespace BuildTool

structure WatchSettings where
  pollMillis : Nat := 500
  deriving DecidableEq, Repr

/-- The time between two looks at the files, at least one millisecond. -/
def WatchSettings.interval (s : WatchSettings) : Nat := max s.pollMillis 1

/-- How this tool calls itself to servers. -/
def defaultUserAgent : String := "bygg/0.6.0"

structure HttpSettings where
  timeoutSeconds : Nat := 60
  userAgent : String := defaultUserAgent
  deriving DecidableEq, Repr

structure DisplaySettings where
  colors : Bool := true
  deriving DecidableEq, Repr

structure Settings where
  watch : WatchSettings := {}
  http : HttpSettings := {}
  display : DisplaySettings := {}
  deriving DecidableEq, Repr

/-! ## Loading settings -/

open Toml

/-- Why settings cannot be loaded, with the path of their file. -/
inductive SettingsError
  | unreadable (path : String) (problem : FileProblem)
  | malformed (path : String)
  deriving DecidableEq, Repr

def SettingsError.message : SettingsError → String
  | .unreadable path _ => "Failed to read settings file: " ++ path
  | .malformed path => "Failed to parse settings file: " ++ path

namespace Settings

/-- The value of field `name` of a group, which is number `index` in a list; a date stands for a
group of other fields. The outer option tells whether the node can be a group. -/
def field? (node : Node) (name : String) (index : Nat) : Option (Option Node) :=
  match node with
  | .table _ entries => some (entries.lookup name)
  | .array items => some items[index]?
  | .tables items => some (items[index]?.map (.table .header))
  | .date => some none
  | _ => none

/-- A field of a group, or its usual value where it is missing. -/
def read {α : Type} (usual : α) (convert : Node → Option α) : Option Node → Option α
  | none => some usual
  | some node => convert node

def natural : Node → Option Nat
  | .integer n => if 0 ≤ n then some n.toNat else none
  | _ => none

def text : Node → Option String
  | .text s => some s
  | _ => none

def boolean : Node → Option Bool
  | .boolean b => some b
  | _ => none

def watchOf (node : Node) : Option WatchSettings := do
  let usual : WatchSettings := {}
  let pollMillis ← read usual.pollMillis natural (← field? node "poll_interval_ms" 0)
  return { pollMillis := pollMillis }

/-- Reads the settings for requests. -/
def httpOf (node : Node) : Option HttpSettings := do
  let usual : HttpSettings := {}
  let timeoutSeconds ← read usual.timeoutSeconds natural (← field? node "timeout_secs" 0)
  let userAgent ← read usual.userAgent text (← field? node "user_agent" 1)
  return { timeoutSeconds, userAgent }

def displayOf (node : Node) : Option DisplaySettings := do
  let usual : DisplaySettings := {}
  let colors ← read usual.colors boolean (← field? node "colors" 0)
  return { colors := colors }

def ofDocument? (document : Entries) : Option Settings := do
  let usual : Settings := {}
  let watch ← read usual.watch watchOf (document.lookup "watch")
  let http ← read usual.http httpOf (document.lookup "http")
  let display ← read usual.display displayOf (document.lookup "display")
  return { watch, http, display }

/-- Where settings are looked for when no file is named. -/
def usualPath : String := "~/.config/bygg/bygg.toml"

/-- The home directory of the account, for a user who has set none. -/
def accountHome : String := "/root"

/-- The home directory that a process environment gives. -/
def homeIn (environment : List (String × String)) : String :=
  match environment.lookup "HOME" with
  | some home => if home = "" then accountHome else home
  | none => accountHome

/-- The path with a tilde at its beginning replaced by the home directory. -/
def expandHome (home path : String) : String :=
  match path.toList with
  | '~' :: rest =>
    if rest = [] ∨ rest.head? = some '/' then home ++ String.ofList rest else path
  | _ => path

/-- Loads settings from a file; a file that does not exist gives the usual settings. -/
def loadFrom (disk : Disk) (path : String) : Except SettingsError Settings :=
  match disk.stat path with
  | .error _ => .ok {}
  | .ok _ =>
    match disk.readFile path with
    | .error fault => .error (.unreadable path (.fault fault))
    | .ok content =>
      match String.fromUTF8? content with
      | none => .error (.unreadable path .notText)
      | some text =>
        match (Toml.parse? text).bind ofDocument? with
        | some settings => .ok settings
        | none => .error (.malformed path)

/-- Loads settings from the file that is named, or else from the usual one. -/
def load (disk : Disk) (home : String) (path : Option String) : Except SettingsError Settings :=
  loadFrom disk (expandHome home (path.getD usualPath))

end Settings

end BuildTool
