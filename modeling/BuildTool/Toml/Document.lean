/-!
# Documents of settings

A document is a table of tables and values. Tables come into being in several ways, and the way
decides what may be added to them later: a table named by a header once, one that only lies on
the way to such a table, one on the way of a dotted key, or one written in braces.

    [a.b]      a is implied, a.b is named by a header
    a.b = 1    a is dotted
-/

namespace BuildTool.Toml

/-- How a table came into being. -/
inductive Origin
  | implied
  | dotted
  | header
  | braces
  deriving DecidableEq, Repr

/-- A value or a table. Of numbers with a fraction and of dates only their presence counts. -/
inductive Node
  | integer (n : Int)
  | fraction
  | boolean (b : Bool)
  | text (s : String)
  | date
  | array (items : List Node)
  | table (origin : Origin) (entries : List (String × Node))
  | tables (items : List (List (String × Node)))
  deriving Repr

/-- The entries of a table. A key occurs once. -/
abbrev Entries := List (String × Node)

namespace Entries

/-- Puts a node at a key, in place of what stood there. -/
def set (key : String) (node : Node) : Entries → Entries
  | [] => [(key, node)]
  | (k, old) :: rest => if k = key then (k, node) :: rest else (k, old) :: set key node rest

/-- Changes the table that a path leads to, making the tables on the way that are missing.
On the way of a dotted key no table may lie that a header has named. -/
def alterAt (dotted : Bool) (change : Origin → Entries → Option Entries) :
    List String → Origin → Entries → Option Entries
  | [], origin, entries => change origin entries
  | key :: path, _, entries =>
    match entries.lookup key with
    | none =>
      let origin : Origin := if dotted then .dotted else .implied
      (alterAt dotted change path origin []).map fun inner =>
        entries ++ [(key, .table origin inner)]
    | some (.table origin inner) =>
      if origin = .braces ∨ (dotted ∧ origin = .header) then none
      else
        (alterAt dotted change path origin inner).map fun inner =>
          set key (.table origin inner) entries
    | some (.tables items) =>
      match items.getLast? with
      | some last =>
        (alterAt dotted change path .header last).map fun last =>
          set key (.tables (items.dropLast ++ [last])) entries
      | none => none
    | some _ => none

/-- Gives a dotted key a value. The key must be new, and the table it is put into must be one
of dotted keys if the key has dots. -/
def assign (path : List String) (key : String) (value : Node) (entries : Entries) :
    Option Entries :=
  alterAt true
    (fun origin inner =>
      if !path.isEmpty && origin ≠ .dotted then none
      else if (inner.lookup key).isSome then none
      else some (inner ++ [(key, value)]))
    path .header entries

def assignAll (assignments : List (List String × String × Node)) (entries : Entries) :
    Option Entries :=
  assignments.foldlM (fun entries a => assign a.1 a.2.1 a.2.2 entries) entries

end Entries

/-- A part of a document: what its header says, and its assignments. -/
structure Section where
  isArray : Bool := false
  path : List String := []
  assignments : List (List String × String × Node) := []

namespace Section

/-- Adds the table of a section below `parent`. A table named by a header before, or made in
another way than by lying on the way, cannot be named again; a section of an array of tables
adds one more table to it. -/
def addTo (part : Section) (key : String) (_ : Origin) (parent : Entries) : Option Entries :=
  if part.isArray then
    match parent.lookup key with
    | none =>
      (Entries.assignAll part.assignments []).map fun new => parent ++ [(key, .tables [new])]
    | some (.tables items) =>
      (Entries.assignAll part.assignments []).map fun new =>
        Entries.set key (.tables (items ++ [new])) parent
    | some _ => none
  else
    match parent.lookup key with
    | none =>
      (Entries.assignAll part.assignments []).map fun new =>
        parent ++ [(key, .table .header new)]
    | some (.table .implied inner) =>
      (Entries.assignAll part.assignments inner).map fun new =>
        Entries.set key (.table .header new) parent
    | some _ => none

def add (document : Entries) (part : Section) : Option Entries :=
  match part.path.getLast? with
  | none => Entries.assignAll part.assignments document
  | some key =>
    Entries.alterAt false (part.addTo key) part.path.dropLast .header document

end Section

end BuildTool.Toml
