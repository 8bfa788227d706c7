import RouteDoc.Schema.Rule

namespace RouteDoc.Check.ComponentModel

open Schema (Rule TypeName Definitions)

/-- Integers are strict, and no text has a prescribed form. -/
def dialect : Schema.Dialect := ⟨false, fun _ _ => true⟩

def string : List Rule := [.types [.string]]

def list : List Rule := [.types [.array]]

/-- A value of this type, or null. -/
def optional (type : TypeName) : List Rule := [.types [type, .null]]

/-- A natural number, or null. -/
def optionalCount : List Rule := [.types [.integer, .null], .atLeast 0]

def optionalOf (rules : List Rule) : List Rule := [.choice .anyOf [[.types [.null]], rules]]

def mapOf (rules : List Rule) : List Rule := [.types [.object], .everyMember rules]

/-- A reference or a schema. -/
def entry : List Rule := [.choice .anyOf [[.see "Reference"], [.see "Schema"]]]

/-- A type's name, alone or as the key of a null. -/
def typeName : List Rule :=
  let names := TypeName.all.map TypeName.key
  [.values (names.map Json.string ++ names.map fun name => .object [(name, .null)])]

def type : List Rule :=
  [.choice .anyOf [typeName, [.types [.array], .items typeName], [.types [.null]]]]

/-- Fields of schemas of every kind. -/
def described : List (String × List Rule) := [
  ("title", optional .string),
  ("description", optional .string),
  ("examples", list)]

/-- Fields of objects and arrays. -/
def annotated : List (String × List Rule) := described ++ [
  ("deprecated", optional .boolean),
  ("xml", optionalOf [.see "Xml"]),
  ("contentEncoding", string),
  ("contentMediaType", string)]

def object : List Rule := [.types [.object], .required ["type"], .members (annotated ++ [
  ("type", type),
  ("format", optional .string),
  ("pattern", optional .string),
  ("enum", optional .array),
  ("required", [.types [.array], .items string]),
  ("properties", mapOf entry),
  ("additionalProperties", optionalOf [.choice .anyOf [entry, [.types [.boolean]]]]),
  ("propertyNames", optionalOf [.see "Schema"]),
  ("writeOnly", optional .boolean),
  ("readOnly", optional .boolean),
  ("multipleOf", optional .number),
  ("maximum", optional .number),
  ("minimum", optional .number),
  ("exclusiveMaximum", optional .number),
  ("exclusiveMinimum", optional .number),
  ("maxLength", optionalCount),
  ("minLength", optionalCount),
  ("maxProperties", optionalCount),
  ("minProperties", optionalCount)])]

def array : List Rule := [.types [.object], .required ["type", "items"], .members (annotated ++ [
  ("type", type),
  ("items", [.choice .anyOf [entry, [.values [.bool false]]]]),
  ("prefixItems", [.types [.array], .items [.see "Schema"]]),
  ("uniqueItems", [.types [.boolean]]),
  ("maxItems", optionalCount),
  ("minItems", optionalCount)])]

/-- Alternatives under a keyword. -/
def alternatives (keyword : String) : List Rule :=
  [.types [.object], .required [keyword], .members (described ++ [
    (keyword, [.types [.array], .items entry]),
    ("type", type),
    ("discriminator", optionalOf [.see "Discriminator"])])]

def definitions : Definitions := [
  ("Reference", [.choice .anyOf [
    [.types [.object], .required ["$ref"],
      .members [("$ref", string), ("description", string), ("summary", string)]],
    [.types [.array], .minItems 1, .maxItems 3, .items string]]]),
  ("Schema", [.choice .anyOf
    [object, array, alternatives "oneOf", alternatives "allOf", alternatives "anyOf"]]),
  ("Xml", [.types [.object], .members [
    ("name", optional .string), ("namespace", optional .string), ("prefix", optional .string),
    ("attribute", optional .boolean), ("wrapped", optional .boolean)]]),
  ("Discriminator", [.types [.object], .required ["propertyName"], .members [
    ("propertyName", string), ("mapping", mapOf string)]]),
  ("Header", [.types [.object], .required ["schema"], .members [
    ("schema", entry), ("description", optional .string)]]),
  ("Example", [.choice .anyOf [[.see "Reference"], [.types [.object], .members [
    ("summary", string), ("description", string), ("externalValue", string)]]]]),
  ("Encoding", [.types [.object], .members [
    ("contentType", optional .string), ("headers", mapOf [.see "Header"]),
    ("style", optional .string), ("explode", optional .boolean),
    ("allowReserved", optional .boolean)]]),
  ("Media", [.types [.object], .members [
    ("schema", optionalOf entry), ("examples", mapOf [.see "Example"]),
    ("encoding", mapOf [.see "Encoding"])]]),
  ("Link", [.choice .anyOf [[.see "Reference"], [.types [.object], .members [
    ("operationRef", string), ("operationId", string), ("parameters", mapOf []),
    ("description", string), ("server", optional .object)]]]]),
  ("Response", [.choice .anyOf [[.see "Reference"], [.types [.object], .required ["description"],
    .members [("description", string), ("headers", mapOf [.see "Header"]),
      ("content", mapOf [.see "Media"]), ("links", mapOf [.see "Link"])]]]])]

/-- The value is a reference or a schema. -/
def isSchemaEntry (value : Json) : Bool :=
  (definitions.check dialect "Reference" value).isEmpty ||
    (definitions.check dialect "Schema" value).isEmpty

/-- The value is a reference or a response. -/
def isResponseEntry (value : Json) : Bool :=
  (definitions.check dialect "Response" value).isEmpty

end RouteDoc.Check.ComponentModel
