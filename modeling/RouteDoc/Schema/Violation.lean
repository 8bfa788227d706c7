import RouteDoc.Json.Pointer
import RouteDoc.Json.Printer

namespace RouteDoc.Schema

inductive TypeName where
  | array
  | boolean
  | integer
  | null
  | number
  | object
  | string
deriving DecidableEq, Repr

def TypeName.key : TypeName → String
  | array => "array"
  | boolean => "boolean"
  | integer => "integer"
  | null => "null"
  | number => "number"
  | object => "object"
  | string => "string"

def TypeName.all : List TypeName := [array, boolean, integer, null, number, object, string]

/-- Texts of a prescribed form. -/
inductive Format where
  | regex
  | uri
  | uriReference
deriving DecidableEq, Repr

def Format.key : Format → String
  | regex => "regex"
  | uri => "uri"
  | uriReference => "uri-reference"

/-- Ways to combine alternatives. -/
inductive Choice where
  | anyOf
  | oneOf
deriving DecidableEq, Repr

def Choice.key : Choice → String
  | anyOf => "anyOf"
  | oneOf => "oneOf"

inductive Violation where
  | wrongType (value : Json) (allowed : List TypeName)
  | notListed (value : Json) (allowed : List Json)
  | below (value : Json) (bound : Int)
  | notAbove (value : Json) (bound : Int)
  | tooFew (value : Json) (least : Nat)
  | tooMany (value : Json) (most : Nat)
  | repeated (value : Json)
  | missing (name : String)
  | unexpected (names : List String)
  | noBranch (choice : Choice) (value : Json)
  | manyBranches (value : Json)
  | badFormat (value : Json) (format : Format)
deriving Repr, Inhabited

def typeWords : List TypeName → String
  | [single] => "type \"" ++ single.key ++ "\""
  | types => "types " ++ ", ".intercalate (types.map fun type => "\"" ++ type.key ++ "\"")

/-- Unexpected names stand between single quotes, unescaped. -/
def unexpectedWords (names : List String) : String :=
  "Additional properties are not allowed (" ++
    ", ".intercalate (names.map fun name => "'" ++ name ++ "'") ++
    (if names.length = 1 then " was" else " were") ++ " unexpected)"

def branchWords (choice : Choice) : String :=
  " of the schemas listed in the '" ++ choice.key ++ "' keyword"

def Violation.message : Violation → String
  | wrongType value allowed => value.compact ++ " is not of " ++ typeWords allowed
  | notListed value allowed => value.compact ++ " is not one of " ++ (Json.array allowed).compact
  | below value bound => value.compact ++ " is less than the minimum of " ++ toString bound
  | notAbove value bound =>
    value.compact ++ " is less than or equal to the minimum of " ++ toString bound
  | tooFew value least =>
    value.compact ++ " has less than " ++ toString least ++ if least = 1 then " item" else " items"
  | tooMany value most =>
    value.compact ++ " has more than " ++ toString most ++ if most = 1 then " item" else " items"
  | repeated value => value.compact ++ " has non-unique elements"
  | missing name => Json.quote name ++ " is a required property"
  | unexpected names => unexpectedWords names
  | noBranch choice value => value.compact ++ " is not valid under any" ++ branchWords choice
  | manyBranches value => value.compact ++ " is valid under more than one" ++ branchWords .oneOf
  | badFormat value format => value.compact ++ " is not a \"" ++ format.key ++ "\""

/-- A violation at the end of a path of keys and indices. -/
structure Finding where
  path : List String
  violation : Violation
deriving Repr, Inhabited

def Finding.here (violation : Violation) : Finding := ⟨[], violation⟩

/-- The same finding seen from the value around it. -/
def Finding.below (step : String) (finding : Finding) : Finding :=
  { finding with path := step :: finding.path }

def Finding.pointer (finding : Finding) : String :=
  finding.path.foldl Json.Pointer.child ""

end RouteDoc.Schema
