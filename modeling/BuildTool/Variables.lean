import BuildTool.Reference

/-!
# Variables and environment

A script works on two stores of named texts: its own variables and the environment that the
programs it runs will see. Both assign and append; appending to an unset variable counts it as
empty and so leaves a leading space, appending to an unset environment entry just sets it.
-/

namespace BuildTool

/-- Named texts. A name occurs once, at the place where it was first set. -/
structure Bindings where
  entries : List (String × String) := []
  deriving DecidableEq, Repr, Inhabited

namespace Bindings

def get? (b : Bindings) (name : String) : Option String := b.entries.lookup name

/-- Binds a name, replacing what it was bound to. -/
def setIn (name value : String) : List (String × String) → List (String × String)
  | [] => [(name, value)]
  | (n, v) :: rest => if n = name then (n, value) :: rest else (n, v) :: setIn name value rest

def set (b : Bindings) (name value : String) : Bindings := ⟨setIn name value b.entries⟩

def ofList (pairs : List (String × String)) : Bindings :=
  pairs.foldl (fun b p => b.set p.1 p.2) ⟨[]⟩

def sorted (b : Bindings) : List (String × String) :=
  b.entries.mergeSort fun p q => decide (p.1 ≤ q.1)

end Bindings

structure Variables where
  bindings : Bindings := {}
  deriving DecidableEq, Repr, Inhabited

structure Environment where
  bindings : Bindings := {}
  deriving DecidableEq, Repr, Inhabited

/-- The version of this tool, as scripts see it. -/
def toolVersion : String := "v0.6.0"

/-- The variables that every script starts with. -/
def builtinVariables (version : String) : List (String × String) :=
  [("VERSION", version), ("OS", "linux"), ("ARCH", "x86_64")]

namespace Variables

def get? (vars : Variables) (name : String) : Option String := vars.bindings.get? name

def assign (vars : Variables) (name value : String) : Variables :=
  ⟨vars.bindings.set name value⟩

/-- Puts a space and the text behind the value, which is empty for an unset variable. -/
def append (vars : Variables) (name value : String) : Variables :=
  vars.assign name ((vars.get? name).getD "" ++ " " ++ value)

/-- The variables a script starts with. -/
def withBuiltins (version : String) : Variables :=
  (builtinVariables version).foldl (fun vars p => vars.assign p.1 p.2) {}

end Variables

namespace Environment

def get? (env : Environment) (name : String) : Option String := env.bindings.get? name

def set (env : Environment) (name value : String) : Environment :=
  ⟨env.bindings.set name value⟩

/-- Puts a space and the text behind the value if the entry is set, else sets it. -/
def append (env : Environment) (name value : String) : Environment :=
  match env.get? name with
  | some previous => env.set name (previous ++ " " ++ value)
  | none => env.set name value

/-- The entries for a program, in order; an entry without a name cannot be passed on. -/
def toPairs (env : Environment) : List (String × String) :=
  env.bindings.sorted.filter fun p => !p.1.isEmpty

end Environment

/-- What a reference stands for: blanks around it do not count, `env.NAME` is an environment
entry, any other context is empty, and so is a name that is not set. -/
def lookupReference (vars : Variables) (env : Environment) (reference : String) : String :=
  let name := Text.trimBoth (fun c => c == ' ' || c == '\t') reference.toList
  match Text.cutChar? '.' name with
  | some (context, entry) =>
    if context = "env".toList then (env.get? (String.ofList entry)).getD "" else ""
  | none => (vars.get? (String.ofList name)).getD ""

def expand (vars : Variables) (env : Environment) (text : String) : String :=
  Reference.substitute (lookupReference vars env) text

end BuildTool
