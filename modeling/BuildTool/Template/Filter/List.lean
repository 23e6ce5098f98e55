import BuildTool.Template.Filter.Number

/-!
# Filters on lists and tables
-/

namespace BuildTool.Template.Filter

/-- The first item of a list, or an empty text. -/
def first : Transform := fun v _ => do
  return ((← subject "first" .list v).head?).getD (.text "")

/-- The last item of a list, or an empty text. -/
def last : Transform := fun v _ => do
  return ((← subject "last" .list v).getLast?).getD (.text "")

/-- The item with a number, or an empty text. -/
def nth : Transform := fun v arguments => do
  let items ← subject "nth" .list v
  if items.isEmpty then return .text ""
  let n ← required "nth" "n" .size "The `nth` filter has to have an `n` argument" arguments
  return (items[n]?).getD (.text "")

def join : Transform := fun v arguments => do
  let items ← subject "join" .list v
  let separator ← argument "truncate" "sep" .text "" arguments
  return .text ((unescaped separator).intercalate (Value.shownAll items))

inductive SortKey
  | number (x : Float)
  | bool (b : Bool)
  | text (s : String)
  | length (n : Nat)

/-- The key of a value, which must be of the same kind as that of the first. -/
def sortKey (first v : Value) : Except EvalError SortKey :=
  match first, v with
  | .null, _ => .error (.refused "Null is not a sortable value")
  | .table _, _ => .error (.refused "Object is not a sortable value")
  | .number _, .number n => .ok (.number n.toFloat)
  | .bool _, .bool b => .ok (.bool b)
  | .text _, .text s => .ok (.text s)
  | .list _, .list items => .ok (.length items.length)
  | .number _, v => .error (.refused ("expected number got " ++ v.asData))
  | .bool _, v => .error (.refused ("expected bool got " ++ v.asData))
  | .text _, v => .error (.refused ("expected string got " ++ v.asData))
  | .list _, v => .error (.refused ("expected array got " ++ v.asData))

/-- Where a floating-point number stands among all others: a zero with a minus sign comes before
one without. -/
def rank (x : Float) : Int :=
  let bits := x.toBits.toNat
  if bits < wordEnd then bits else (wordEnd : Int) - 1 - bits

/-- The order of keys of one kind. -/
def SortKey.isAtMost : SortKey → SortKey → Bool
  | .number x, .number y => decide (rank x ≤ rank y)
  | .bool a, .bool b => !a || b
  | .text a, .text b => decide (a ≤ b)
  | .length m, .length n => decide (m ≤ n)
  | _, _ => true

def fieldOf (path : String) (v : Value) : Except EvalError Value :=
  match v.follow? path with
  | some found => .ok found
  | none => .error (.refused ("attribute '" ++ path ++ "' does not reference a field"))

/-- The items in order, by their own values or by those of a field. -/
def sort : Transform := fun v arguments => do
  match ← subject "sort" .list v with
  | [] => return .list []
  | lead :: rest =>
    let items := lead :: rest
    let path ← argument "sort" "attribute" .text "" arguments
    let lead ← fieldOf path lead
    let keyed ← items.mapM fun item => do
      return (← sortKey lead (← fieldOf path item), item)
    return .list ((keyed.mergeSort fun a b => a.1.isAtMost b.1).map (·.2))

/-- The kinds of values that can be told apart from each other. -/
inductive UniqueKind
  | number
  | bool
  | text
  deriving DecidableEq

/-- What makes a value count as the same as another one of its kind. -/
def UniqueKind.key (kind : UniqueKind) (caseSensitive : Bool) (v : Value) :
    Except EvalError Value :=
  match kind, v with
  | .text, .text s => .ok (.text (if caseSensitive then s else Text.lowerCase s))
  | .number, .number (.float _) => .error (.refused ("expected number got " ++ v.asData))
  | .number, .number _ | .bool, .bool _ => .ok v
  | _, _ => .error (.refused "unique filter can't compare multiple types")

/-- The kind of the first value, which all others must be of. -/
def UniqueKind.of (v : Value) : Except EvalError UniqueKind :=
  match v with
  | .number (.int _) => .ok .number
  | .number (.float _) => .error (.refused "Unique floats are not implemented")
  | .bool _ => .ok .bool
  | .text _ => .ok .text
  | .null => .error (.refused "Null is not a unique value")
  | .list _ => .error (.refused "Unique arrays are not implemented")
  | .table _ => .error (.refused "Unique objects are not implemented")

/-- The items without those that count as the same as an earlier one. -/
def unique : Transform := fun v arguments => do
  match ← subject "unique" .list v with
  | [] => return .list []
  | lead :: rest =>
    let caseSensitive ← argument "unique" "case_sensitive" .bool false arguments
    let path ← argument "unique" "attribute" .text "" arguments
    let kind ← UniqueKind.of (← fieldOf path lead)
    let (kept, _) ← (lead :: rest).foldlM (fun (acc : List Value × List Value) item =>
      match item.follow? path with
      | none => Except.ok acc
      | some found => do
        let key ← kind.key caseSensitive found
        if acc.2.contains key then return acc
        return (acc.1 ++ [item], key :: acc.2)) ([], [])
    return .list kept

/-- A stretch of a list; negative bounds count from its end. -/
def slice : Transform := fun v arguments => do
  let items ← subject "slice" .list v
  if items.isEmpty then return .list []
  let place (x : Float) : Nat :=
    if x ≥ 0.0 then x.toUInt64.toNat else (Float.ofNat items.length + x).toUInt64.toNat
  let start := ((← argument? "slice" "start" .float arguments).map place).getD 0
  let stop := ((← argument? "slice" "end" .float arguments).map place).getD items.length
  return .list ((items.take stop).drop start)

def groupName (v : Value) : String :=
  match v with
  | .text s => s
  | v => v.asData

/-- The items in lists by the text of a field. -/
def groupBy : Transform := fun v arguments => do
  let items ← subject "group_by" .list v
  if items.isEmpty then return .table []
  let path ← required "group_by" "attribute" .text
    "The `group_by` filter has to have an `attribute` argument" arguments
  let keyed := items.filterMap fun item =>
    match item.follow? path with
    | none | some .null => none
    | some key => some (groupName key, item)
  let names := (keyed.map (·.1)).eraseDups.mergeSort fun a b => decide (a ≤ b)
  return .table (names.map fun name =>
    (name, .list ((keyed.filter (·.1 == name)).map (·.2))))

/-- The items whose field has a value. -/
def filter : Transform := fun v arguments => do
  let items ← subject "filter" .list v
  if items.isEmpty then return .list []
  let path ← required "filter" "attribute" .text
    "The `filter` filter has to have an `attribute` argument" arguments
  let wanted := (arguments.lookup "value").getD .null
  return .list (items.filter fun item =>
    let found := (item.follow? path).getD .null
    match wanted with
    | .null => found != .null
    | _ => found == wanted)

/-- The fields of the items, where they are there. -/
def map : Transform := fun v arguments => do
  let items ← subject "map" .list v
  if items.isEmpty then return .list []
  let path ← required "map" "attribute" .text
    "The `map` filter has to have an `attribute` argument" arguments
  return .list (items.filterMap fun item => (item.follow? path).filter (· != .null))

def concat : Transform := fun v arguments => do
  let items ← subject "concat" .list v
  match arguments.lookup "with" with
  | none => .error (.refused "The `concat` filter has to have a `with` argument")
  | some (.list more) => return .list (items ++ more)
  | some item => return .list (items ++ [item])

/-- The number of items, entries or characters. -/
def length : Transform := fun v _ =>
  match v with
  | .list items => .ok (.int items.length)
  | .table entries => .ok (.int entries.length)
  | .text s => .ok (.int s.length)
  | _ => .error (.refused
      "Filter `length` was used on a value that isn't an array, an object, or a string.")

/-- A list or text from its end. -/
def reverse : Transform := fun v _ =>
  match v with
  | .list items => .ok (.list items.reverse)
  | .text s => .ok (.text (String.ofList s.toList.reverse))
  | _ => .error (.refused
      ("Filter `reverse` received an incorrect type for arg `value`: got `" ++ v.asData ++
        "` but expected Array|String"))

/-- The value as data, on one line or several. -/
def encode : Transform := fun v arguments => do
  return .text (if arguments.lookup "pretty" == some (.bool true) then v.asLines "" else v.asData)

/-- The entry of a table, or what stands in for it. -/
def get : Transform := fun v arguments => do
  let key ← required "get" "key" .text "The `get` filter has to have an `key` argument" arguments
  match v with
  | .table entries =>
    match entries.lookup key, arguments.lookup "default" with
    | some found, _ => return found
    | none, some otherwise => return otherwise
    | none, none =>
      .error (.refused ("Filter `get` tried to get key `" ++ key ++ "` but it wasn't found"))
  | _ => .error (.refused "Filter `get` was used on a value that isn't an object")

def all : List (String × Transform) :=
  onTexts ++ onNumbers ++
    [("first", first), ("last", last), ("nth", nth), ("join", join), ("sort", sort),
      ("unique", unique), ("slice", slice), ("group_by", groupBy), ("filter", filter),
      ("map", map), ("concat", concat), ("length", length), ("reverse", reverse),
      ("json_encode", encode), ("get", get), ("as_str", fun v _ => .ok (.text v.shown))]

end BuildTool.Template.Filter
