import RouteDoc.Json.Basic
import RouteDoc.Schema.Draft

namespace RouteDoc.Schema

/-- How a keyword holds schemas. -/
inductive Holding where
  | one
  | list
  | byName
  /-- One schema or a list of them. -/
  | oneOrList
  /-- Schemas by name beside lists of names. -/
  | dependencies
deriving DecidableEq, Repr

namespace Draft

def fourthHolding : String → Option Holding
  | "additionalItems" | "additionalProperties" | "not" => some .one
  | "allOf" | "anyOf" | "oneOf" => some .list
  | "definitions" | "patternProperties" | "properties" => some .byName
  | "items" => some .oneOrList
  | "dependencies" => some .dependencies
  | _ => none

/-- Each draft adds keywords to the ones before it. -/
def holding? (draft : Draft) (key : String) : Option Holding :=
  match draft, key with
  | .six, "contains" | .six, "propertyNames" | .seven, "contains" | .seven, "propertyNames"
  | .seven, "if" | .seven, "then" | .seven, "else" => some .one
  | _, key => fourthHolding key

end Draft

/-- The schemas in a keyword's value. -/
def Holding.schemas : Holding → Json → List Json
  | .list, .array items | .oneOrList, .array items => items
  | .byName, .object members => members.map Prod.snd
  | .dependencies, .object members =>
    (members.map Prod.snd).filter fun value => value.asObject?.isSome
  | .one, value | .oneOrList, value => [value]
  | _, _ => []

namespace Draft

/-- The schemas right below a schema, in document order. -/
def subschemas (draft : Draft) (schema : Json) : List Json :=
  (schema.asObject?.getD []).flatMap fun (key, value) =>
    match draft.holding? key with
    | some holding => holding.schemas value
    | none => []

def idText? (draft : Draft) (schema : Json) : Option String :=
  (schema.get? draft.idKey).bind Json.asString?

def dropHashes (text : String) : String :=
  String.ofList ((text.toList.reverse.dropWhile (· = '#')).reverse)

/-- The identity of a schema, unless it is a mere reference. -/
def id? (draft : Draft) (schema : Json) : Option String :=
  if (schema.get? "$ref").isSome then none
  else ((draft.idText? schema).filter fun id => !id.startsWith "#").map dropHashes

/-- The name a schema has within its document. -/
def anchor? (draft : Draft) (schema : Json) : Option String :=
  ((draft.idText? schema).filter (·.startsWith "#")).map fun id => String.ofList (id.toList.drop 1)

end Draft
end RouteDoc.Schema
