import RouteDoc.Schema.Draft
import RouteDoc.Schema.Rule

namespace RouteDoc.Schema.Metaschema

/-- The name of the definition of a schema. -/
def root : String := "schema"

def schema : List Rule := [.see root]

def string : List Rule := [.types [.string]]

def number : List Rule := [.types [.number]]

def boolean : List Rule := [.types [.boolean]]

def list : List Rule := [.types [.array]]

/-- A length or a count. -/
def count : List Rule := [.types [.integer], .atLeast 0]

def positive : List Rule := [.types [.number], .moreThan 0]

def text (format : Format) : List Rule := [.types [.string], .form format]

def schemaList : List Rule := [.types [.array], .minItems 1, .items schema]

def oneOrMore : List Rule := [.choice .anyOf [schema, schemaList]]

def schemasByName : List Rule := [.types [.object], .everyMember schema]

/-- A list of different names. -/
def nameList : List Rule := [.types [.array], .items string, .distinct]

/-- A list of different names that is not empty. -/
def nonEmptyNameList : List Rule := [.types [.array], .items string, .minItems 1, .distinct]

def typeNames : List Rule := [.values (TypeName.all.map fun type => .string type.key)]

def typeRules : List Rule :=
  [.choice .anyOf [typeNames, [.types [.array], .items typeNames, .minItems 1, .distinct]]]

def dependencies (names : List Rule) : List Rule :=
  [.types [.object], .everyMember [.choice .anyOf [schema, names]]]

def booleanOrSchema : List Rule := [.choice .anyOf [boolean, schema]]

/-- The last keywords of every draft. -/
def combinations : List (String × List Rule) :=
  [("allOf", schemaList), ("anyOf", schemaList), ("oneOf", schemaList), ("not", schema)]

def lengths : List (String × List Rule) :=
  [("maxLength", count), ("minLength", count), ("pattern", text .regex)]

def itemCounts : List (String × List Rule) :=
  [("maxItems", count), ("minItems", count), ("uniqueItems", boolean)]

def memberCounts : List (String × List Rule) := [("maxProperties", count), ("minProperties", count)]

def fourth : List (String × List Rule) :=
  [("id", string), ("$schema", string), ("title", string), ("description", string), ("default", []),
    ("multipleOf", positive), ("maximum", number), ("exclusiveMaximum", boolean),
    ("minimum", number), ("exclusiveMinimum", boolean)] ++ lengths ++
  [("additionalItems", booleanOrSchema), ("items", oneOrMore)] ++ itemCounts ++ memberCounts ++
  [("required", nonEmptyNameList), ("additionalProperties", booleanOrSchema),
    ("definitions", schemasByName), ("properties", schemasByName),
    ("patternProperties", schemasByName), ("dependencies", dependencies nonEmptyNameList),
    ("enum", [.types [.array], .minItems 1, .distinct]), ("type", typeRules), ("format", string)] ++
  combinations

/-- Keywords with bounds that are numbers, from the multiple to the counts of members. -/
def bounds : List (String × List Rule) :=
  [("multipleOf", positive), ("maximum", number), ("exclusiveMaximum", number), ("minimum", number),
    ("exclusiveMinimum", number)] ++ lengths ++
  [("additionalItems", schema), ("items", oneOrMore)] ++ itemCounts ++ [("contains", schema)] ++
  memberCounts

/-- The schemas of members; names are looked at after values. -/
def memberKeywords : List (String × List Rule) :=
  [("required", nameList), ("additionalProperties", schema), ("definitions", schemasByName),
    ("properties", schemasByName),
    ("patternProperties", [.types [.object], .everyMember schema, .everyName [.form .regex]]),
    ("dependencies", dependencies nameList), ("propertyNames", schema), ("const", [])]

def sixth : List (String × List Rule) :=
  [("$id", text .uriReference), ("$schema", text .uri), ("$ref", text .uriReference),
    ("title", string), ("description", string), ("default", []), ("examples", list)] ++ bounds ++
  memberKeywords ++
  [("enum", [.types [.array], .minItems 1, .distinct]), ("type", typeRules), ("format", string)] ++
  combinations

def seventh : List (String × List Rule) :=
  [("$id", text .uriReference), ("$schema", text .uri), ("$ref", text .uriReference),
    ("$comment", string), ("title", string), ("description", string), ("default", []),
    ("readOnly", boolean), ("writeOnly", boolean), ("examples", list)] ++ bounds ++
    memberKeywords ++
  [("enum", list), ("type", typeRules), ("format", string), ("contentMediaType", string),
    ("contentEncoding", string), ("if", schema), ("then", schema), ("else", schema)] ++ combinations

/-- A boolean is a schema from the sixth draft on. -/
def schemaRules : Draft → List Rule
  | .four => [.types [.object], .members fourth,
      .dependent "exclusiveMaximum" ["maximum"], .dependent "exclusiveMinimum" ["minimum"]]
  | .six => [.types [.boolean, .object], .members sixth]
  | .seven => [.types [.boolean, .object], .members seventh]

def definitions (draft : Draft) : Definitions := [(root, schemaRules draft)]

/-- Faults of a schema; `accepts` says which texts have a prescribed form. -/
def check (draft : Draft) (accepts : Format → String → Bool) (value : Json) : List Finding :=
  (definitions draft).check ⟨draft != .four, accepts⟩ root value

end RouteDoc.Schema.Metaschema
