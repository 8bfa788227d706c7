import RouteDoc.Schema.Kind

namespace RouteDoc.Operation

inductive Location where
  | path
  | query
  | cookie
  | header
deriving DecidableEq, Repr, Inhabited

def Location.key : Location → String
  | path => "path"
  | query => "query"
  | cookie => "cookie"
  | header => "header"

def Location.all : List Location := [.path, .query, .cookie, .header]

/-- A part of a request schema whose properties are parameters. -/
inductive Bucket where
  | params
  | query
  | cookies
  | header
deriving DecidableEq, Repr

namespace Bucket

/-- The order in which the buckets' parameters stand. -/
def all : List Bucket := [params, query, cookies, header]

/-- The property of a request schema that holds the bucket. -/
def key : Bucket → String
  | params => "params"
  | query => "query"
  | cookies => "cookies"
  | header => "header"

def location : Bucket → Location
  | params => .path
  | query => .query
  | cookies => .cookie
  | header => .header

def ofKey? (name : String) : Option Bucket := all.find? fun bucket => bucket.key = name

end Bucket

structure ParameterSchema where
  type : Option String := none
  example? : Option Json := none
  pattern : Option String := none
  description : Option String := none
deriving Inhabited

structure Parameter where
  location : Location
  name : String
  description : Option String := none
  required : Option Bool := none
  schema : ParameterSchema
deriving Inhabited

/-- The required list of a schema contains the name. -/
def isRequired (schema : Json) (name : String) : Bool :=
  (((schema.get? "required").bind Json.asArray?).getD []).any fun entry =>
    entry.asString? = some name

def stringAt (key : String) (schema : Json) : Option String :=
  (schema.get? key).bind Json.asString?

/-- The first of the examples of a schema. -/
def firstExample (schema : Json) : Option Json :=
  ((schema.get? "examples").bind Json.asArray?).bind List.head?

/-- A parameter is flagged as required or carries no flag. -/
def Bucket.parameter (bucket : Bucket) (schema : Json) (name : String) (property : Json) :
    Parameter where
  location := bucket.location
  name := name
  description := stringAt "title" property
  required := if isRequired schema name then some true else none
  schema := {
    type := Schema.declaredType property
    example? := firstExample property
    pattern := stringAt "pattern" property
    description := stringAt "title" property }

/-- The properties of a bucket that are no objects, in their order. -/
def Bucket.parameters (bucket : Bucket) (schema : Json) : List Parameter :=
  ((schema.entriesAt "properties").filter fun (_, property) =>
    Schema.declaredType property ≠ some "object").map fun (name, property) =>
      bucket.parameter schema name property

end RouteDoc.Operation
