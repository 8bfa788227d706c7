import RouteDoc.Json.Basic
import RouteDoc.Text.Lowercase

namespace RouteDoc.Schema

inductive Kind where
  | object
  | array (items : Option Json)
  | oneOf (alternatives : List Json)
  | primitive (type : Option String)
deriving Inhabited

/-- The declared type in lower case, if it is a string. -/
def declaredType (schema : Json) : Option String :=
  ((schema.get? "type").bind Json.asString?).map Text.lower

/-- The kind that goes with a declared type. -/
def Kind.ofType (schema : Json) (type : String) : Kind :=
  if type = "object" then .object
  else if type = "array" then .array (schema.get? "items")
  else .primitive (some type)

def kind (schema : Json) : Kind :=
  match declaredType schema with
  | some type => .ofType schema type
  | none =>
    match (schema.get? "oneOf").bind Json.asArray? with
    | some alternatives => .oneOf alternatives
    | none => .primitive none

end RouteDoc.Schema
