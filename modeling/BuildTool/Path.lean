import BuildTool.Text.Split

/-!
# Paths

A path is text whose elements are separated by slashes; a leading slash starts at the root.
`Path.clean` gives the shortest spelling that leads to the same place lexically, `Path.join`
reads a path relative to a directory without shortening anything.

    clean (./a//b/)  is  a/b        clean (a/../..)  is  ..        clean (/../a)  is  /a
-/

namespace BuildTool.Path

/-- A leading slash makes a path absolute. -/
def isAbsolute (path : String) : Bool := path.toList.head? == some '/'

/-- The texts between the slashes, empty ones included. -/
def elements (path : List Char) : List (List Char) := Text.splitChar '/' path

/-- Takes one element onto the elements kept so far, innermost first. An empty element and
`.` stay in place, `..` goes up where something is left to leave, stays put at the root, and
is kept at the beginning of a relative path. -/
def step (rooted : Bool) (kept : List (List Char)) (element : List Char) : List (List Char) :=
  if element = [] ∨ element = ['.'] then kept
  else if element = ['.', '.'] then
    match kept with
    | last :: outer =>
      if last ≠ ['.', '.'] then outer
      else if rooted then kept
      else element :: kept
    | [] => if rooted then [] else [element]
  else element :: kept

def cleanElements (rooted : Bool) (path : List Char) : List (List Char) :=
  ((elements path).foldl (step rooted) []).reverse

def joinElements (elements : List (List Char)) : List Char :=
  List.intercalate ['/'] elements

def cleanChars (path : List Char) : List Char :=
  if path = [] then ['.']
  else
    let rooted := path.head? == some '/'
    let joined := joinElements (cleanElements rooted path)
    if rooted then '/' :: joined
    else if joined = [] then ['.']
    else joined

/-- The normal form of a path: no empty element, no `.`, and `..` only at the beginning of a
relative path. The empty path is the current directory. -/
def clean (path : String) : String := String.ofList (cleanChars path.toList)

/-- The path that `name` means in directory `base`; an absolute name stands for itself. -/
def join (base name : String) : String :=
  if isAbsolute name then name
  else if base.isEmpty then name
  else if base.toList.getLast? == some '/' then base ++ name
  else base ++ "/" ++ name

/-- The names of a path in order: empty elements do not count, and `.` only at the beginning
of a relative path. -/
def names (path : String) : List String :=
  let all := ((elements path.toList).filter fun e => !e.isEmpty).map String.ofList
  if isAbsolute path then all.filter (· != ".")
  else
    match all with
    | first :: rest => first :: rest.filter (· != ".")
    | [] => []

/-- The path of some names, from the root or not. -/
def ofNames (rooted : Bool) (names : List String) : String :=
  (if rooted then "/" else "") ++ "/".intercalate names

/-- The directories on the way to a path, nearest first; a relative path ends with the empty
one, an absolute path with the root. -/
def parents (path : String) : List String :=
  let all := names path
  (List.range all.length).reverse.map fun n => ofNames (isAbsolute path) (all.take n)

/-- What is left of a path below a directory, when its names begin with those of the
directory. -/
def below? (dir path : String) : Option String :=
  if isAbsolute dir != isAbsolute path then none
  else
    let start := names dir
    let all := names path
    if start.isPrefixOf all then some (ofNames false (all.drop start.length)) else none

end BuildTool.Path
