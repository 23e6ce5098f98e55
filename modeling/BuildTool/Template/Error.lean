import BuildTool.Text.Split

/-!
# Errors of templates

Why an expression has no value, and why a template as a whole cannot be filled in. An error may
have another one behind it; its message goes on with the messages of those.
-/

namespace BuildTool.Template

inductive CalledKind
  | function
  | filter
  | test
  deriving DecidableEq, Repr

namespace CalledKind

def word : CalledKind → String
  | .function => "Function"
  | .filter => "Filter"
  | .test => "Test"

end CalledKind

/-- Why an expression or a statement fails. `refused` is what a function, filter or test has to
say about its own arguments. -/
inductive EvalError
  | unknownVariable (path : String)
  | unknownElement (path evaluated : String)
  | badSubscript (path : String) (cause : EvalError)
  | subscriptKind (part path : String)
  | unknown (kind : CalledKind) (name : String)
  | within (kind : CalledKind) (name : String) (cause : EvalError)
  | refused (words : String)
  | arithmetic (cause : EvalError)
  | functionNotBool (name : String)
  | functionNotNumber (name : String)
  | variableNotNumber (path : String)
  | valueNotNumber
  | textInMath (text : String)
  | boolInMath (b : Bool)
  | concatInMath (text : String)
  | testInMath (name : String)
  | otherInMath (text : String)
  | overflow (left : Int) (sign : String) (right : Int)
  | moduloZero (left right : String)
  | notComparable
  | concatVariable (path : String)
  | concatFunction (name : String)
  | defaultWithoutValue
  | notInText (value : String)
  | notInTable (value : String)
  | nothingToSearch
  | pairsOfList (container : String)
  | pairsWithoutKey (container : String)
  | notIterable (container : String)
  | noContainer (description : String)
  | noLoop (word : String)
  | unknownSpace (space : String)
  | unknownDefinition (space name : String)
  | missingParameter (definition parameter : String)
  | noTemplate (names : List String)
  | nothingOverridden
  | nestedTooDeep
  deriving DecidableEq, Repr

namespace EvalError

/-- The wording of an error without those behind it. -/
def headline : EvalError → String
  | .unknownVariable path =>
    "Variable `" ++ path ++ "` not found in context while rendering template"
  | .unknownElement path evaluated =>
    "Variable `" ++ path ++ "` not found in context while rendering template: " ++
      "the evaluated version was `" ++ evaluated ++ "`. Maybe the index is out of bounds?"
  | .badSubscript path cause =>
    "Variable " ++ path ++ " can not be evaluated because: " ++ cause.headline
  | .subscriptKind part path =>
    "Only variables evaluating to String or Number can be used as index (`" ++ part ++ "` of `" ++
      path ++ "`)"
  | .unknown kind name => kind.word ++ " '" ++ name ++ "' not found"
  | .within kind name _ => kind.word ++ " call '" ++ name ++ "' failed"
  | .refused words => words
  | .arithmetic cause => cause.headline
  | .functionNotBool name =>
    "Function `" ++ name ++ "` was used in a logic operation but is not returning a bool"
  | .functionNotNumber name =>
    "Function `" ++ name ++ "` was used in a math operation but is not returning a number"
  | .variableNotNumber path =>
    "Variable `" ++ path ++ "` was used in a math operation but is not a number"
  | .valueNotNumber => "Tried to do math with an expression not resulting in a number"
  | .textInMath text => "Tried to do math with a string: `" ++ text ++ "`"
  | .boolInMath b =>
    "Tried to do math with a boolean: `" ++ (if b then "true" else "false") ++ "`"
  | .concatInMath text => "Tried to do math with a string concatenation: " ++ text
  | .testInMath name => "Tried to do math with a test: " ++ name
  | .otherInMath text => "Tried to do math with an unsupported expression: " ++ text
  | .overflow left sign right =>
    toString left ++ " " ++ sign ++ " " ++ toString right ++
      " results in an out of bounds i64"
  | .moduloZero left right => "Tried to do a modulo by zero: " ++ left ++ "/" ++ right
  | .notComparable => "Comparison to NaN"
  | .concatVariable path =>
    "Tried to concat a value that is not a string or a number from ident " ++ path
  | .concatFunction name =>
    "Tried to concat a value that is not a string or a number from function call " ++ name
  | .defaultWithoutValue => "The `default` filter requires a `value` argument."
  | .notInText value =>
    "Tried to check if " ++ value ++ " is in a string, but it isn't a string"
  | .notInTable value =>
    "Tried to check if " ++ value ++ " is in a object, but it isn't a string"
  | .nothingToSearch => "The `in` operator only supports strings, arrays and objects."
  | .pairsOfList container =>
    "Tried to iterate using key value on variable `" ++ container ++
      "`, but it isn't an object/map"
  | .pairsWithoutKey container =>
    "Tried to iterate using key value on variable `" ++ container ++
      "`, but it is missing a key"
  | .notIterable container =>
    "Tried to iterate on a container (`" ++ container ++ "`) that has a unsupported type"
  | .noContainer description =>
    "Forloop containers have to be an ident or a function call (tried to iterate on '" ++
      description ++ "')"
  | .noLoop word => "Attempted `" ++ word ++ "` while not in `for loop`"
  | .unknownSpace space =>
    "Macro namespace `" ++ space ++ "` was not found in template `__tera_one_off`. " ++
      "Have you maybe forgotten to import it, or misspelled it?"
  | .unknownDefinition space name =>
    "Macro `" ++ space ++ "::" ++ name ++ "` not found in template `__tera_one_off`"
  | .missingParameter definition parameter =>
    "Macro `" ++ definition ++ "` is missing the argument `" ++ parameter ++ "`"
  | .noTemplate names => "Template '[" ++ ", ".intercalate names ++ "]' not found"
  | .nothingOverridden => "Tried to use super() in the top level block"
  | .nestedTooDeep => "Templates are nested too deeply"

def message : EvalError → String
  | .within kind name cause => kind.word ++ " call '" ++ name ++ "' failed: " ++ cause.message
  | e => e.headline

end EvalError

end BuildTool.Template

namespace BuildTool

open Template (EvalError)

/-- Why a template cannot be filled in. An error in a definition names the definition. -/
inductive RenderError
  | noParent (name : String)
  | ownParent
  | noImport (file : String)
  | failed (inside : Option (String × String)) (cause : EvalError)
  deriving DecidableEq, Repr

namespace RenderError

def withPlainName (text : String) : String :=
  String.ofList (Text.replaceText "'__tera_one_off'".toList "template".toList text.toList)

def message : RenderError → String
  | .noParent name =>
    "Template template is inheriting from '" ++ name ++
      "', which doesn't exist or isn't loaded."
  | .ownParent =>
    "Circular extend detected for template template. " ++
      "Inheritance chain: `[\"__tera_one_off\"]`"
  | .noImport file =>
    "Template `__tera_one_off` loads macros from `" ++ file ++ "` which isn't present in Tera"
  | .failed none cause => "Failed to render template: " ++ withPlainName cause.message
  | .failed (some (space, name)) cause =>
    "Failed to render template: error while rendering macro `" ++ space ++ "::" ++ name ++
      "`: " ++ withPlainName cause.message

end RenderError

end BuildTool
