import RouteDoc.Schema.Rule

namespace RouteDoc.Schema.SchemaObject

/-- Integers are strict, and no text has a prescribed form. -/
def dialect : Dialect := ⟨false, fun _ _ => true⟩

def string : List Rule := [.types [.string]]

def boolean : List Rule := [.types [.boolean]]

def number : List Rule := [.types [.number]]

/-- A length or a count. -/
def count : List Rule := [.types [.integer], .atLeast 0]

/-- Exactly one of a schema and a reference. -/
def schemaOrReference : List Rule := [.choice .oneOf [[.see "Schema"], [.see "Reference"]]]

def schemaList : List Rule := [.types [.array], .items schemaOrReference]

def keywords : List (String × List Rule) := [
  ("title", string),
  ("multipleOf", [.types [.number], .moreThan 0]),
  ("maximum", number),
  ("exclusiveMaximum", boolean),
  ("minimum", number),
  ("exclusiveMinimum", boolean),
  ("maxLength", count),
  ("minLength", count),
  ("pattern", string),
  ("maxItems", count),
  ("minItems", count),
  ("uniqueItems", boolean),
  ("maxProperties", count),
  ("minProperties", count),
  ("required", [.types [.array], .items string, .minItems 1, .distinct]),
  ("enum", [.types [.array], .minItems 1]),
  ("type", [.types [.string], .values ([TypeName.array, .boolean, .integer, .number, .object,
    .string].map fun type => .string type.key)]),
  ("not", schemaOrReference),
  ("allOf", schemaList),
  ("oneOf", schemaList),
  ("anyOf", schemaList),
  ("items", schemaOrReference),
  ("properties", [.types [.object], .everyMember schemaOrReference]),
  ("additionalProperties",
    [.choice .oneOf [[.see "Schema"], [.see "Reference"], [.types [.boolean]]]]),
  ("description", string),
  ("format", string),
  ("default", []),
  ("nullable", boolean),
  ("discriminator", [.see "Discriminator"]),
  ("readOnly", boolean),
  ("writeOnly", boolean),
  ("example", []),
  ("externalDocs", [.see "ExternalDocumentation"]),
  ("deprecated", boolean),
  ("xml", [.see "XML"])]

def definitions : Definitions := [
  ("Schema", [.types [.object], .only keywords]),
  ("Reference", [.types [.object], .required ["$ref"], .members [("$ref", string)]]),
  ("Discriminator", [.types [.object], .required ["propertyName"], .members [
    ("propertyName", string),
    ("mapping", [.types [.object], .everyMember string])]]),
  ("XML", [.types [.object], .only [
    ("name", string), ("namespace", string), ("prefix", string),
    ("attribute", boolean), ("wrapped", boolean)]]),
  ("ExternalDocumentation", [.types [.object], .required ["url"], .only [
    ("description", string), ("url", string)]])]

/-- The violations of a value taken as a Schema Object. -/
def check (value : Json) : List Finding := definitions.check dialect "Schema" value

end RouteDoc.Schema.SchemaObject
