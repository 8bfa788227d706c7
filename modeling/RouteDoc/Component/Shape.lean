import RouteDoc.Schema.Kind

namespace RouteDoc.Component

open Schema (declaredType)

/-- A schema with all but its objects, lists and choices cut down to type and title. -/
inductive Shape where
  | object (required : List Json) (properties : List (String × Shape))
  | array (items : Option Shape)
  | oneOf (alternatives : List Shape)
  | primitive (type : Option String) (title : Option Json)
deriving Inhabited

/-- The required list, empty where there is none. -/
def requiredOf (schema : Json) : List Json :=
  ((schema.get? "required").bind Json.asArray?).getD []

/-- A title other than null. -/
def titleOf (schema : Json) : Option Json :=
  (schema.get? "title").filter (!·.isNull)

namespace Shape

mutual

def ofSchema : Json → Shape
  | .object members =>
    match declaredType (.object members) with
    | some type =>
      if type = "object" then .object (requiredOf (.object members)) (propertiesIn members)
      else if type = "array" then .array (itemsIn members)
      else .primitive (some type) (titleOf (.object members))
    | none =>
      match alternativesIn members with
      | some alternatives => .oneOf alternatives
      | none => .primitive none (titleOf (.object members))
  | _ => .primitive none none
termination_by structural schema => schema

/-- The shapes of the declared properties. -/
def propertiesIn : List (String × Json) → List (String × Shape)
  | [] => []
  | (key, value) :: rest => if key = "properties" then ofMember value else propertiesIn rest

def ofMember : Json → List (String × Shape)
  | .object properties => ofEach properties
  | _ => []

def ofEach : List (String × Json) → List (String × Shape)
  | [] => []
  | (name, schema) :: rest => (name, ofSchema schema) :: ofEach rest

def itemsIn : List (String × Json) → Option Shape
  | [] => none
  | (key, value) :: rest => if key = "items" then some (ofSchema value) else itemsIn rest

/-- The shapes of a `oneOf` list. -/
def alternativesIn : List (String × Json) → Option (List Shape)
  | [] => none
  | (key, value) :: rest => if key = "oneOf" then ofList value else alternativesIn rest

def ofList : Json → Option (List Shape)
  | .array schemas => some (ofAll schemas)
  | _ => none

def ofAll : List Json → List Shape
  | [] => []
  | schema :: rest => ofSchema schema :: ofAll rest

end

/-- The properties of a schema that is taken as an object whatever its type says. -/
def propertiesOf (schema : Json) : List (String × Shape) :=
  propertiesIn ((schema.asObject?).getD [])

end Shape
end RouteDoc.Component
