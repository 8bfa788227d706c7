import RouteDoc.Component.Registry
import RouteDoc.Component.Shape

namespace RouteDoc.Component

def referenceTo (target : String) : Json := .object [("$ref", .string target)]

def arrayOf (items : Json) : Json := .object [("type", .string "array"), ("items", items)]

/-- A leaf keeps its type; its name becomes the title and its title the description. -/
def leaf (type : Option String) (name : String) (title : Option Json) : Json :=
  .object ((type.map fun t => ("type", Json.string t)).toList ++ [("title", .string name)] ++
    (title.map fun t => ("description", t)).toList)

/-- An object component; an empty required list is left out. -/
def objectOf (required : List Json) (properties : Entries Json) : Json :=
  .object ([("type", Json.string "object")] ++
    (if required = [] then [] else [("required", Json.array required)]) ++
    [("properties", .object properties)])

mutual

/-- What stands for a schema called `name` at the position `label`. -/
def place (home : String) (label name : String) : Shape → Registering Json
  | .object required properties => do
    let placed ← placeProperties home (join label name) properties
    let target ← register .schemas (join home (join label name)) (objectOf required placed)
    return referenceTo target
  | .array none => return arrayOf (.object [])
  | .array (some items) => do
    return arrayOf (← place home (join label "array") "items" items)
  | .oneOf alternatives => do
    return .object [("oneOf",
      .array (← placeAlternatives home (join label "oneOf") 0 alternatives))]
  | .primitive type title => return leaf type name title
termination_by structural shape => shape

def placeProperties (home label : String) : List (String × Shape) → Registering (Entries Json)
  | [] => return []
  | (name, shape) :: rest => do
    let placed ← place home label name shape
    return (name, placed) :: (← placeProperties home label rest)

/-- Alternatives are called by their index. -/
def placeAlternatives (home label : String) (index : Nat) : List Shape → Registering (List Json)
  | [] => return []
  | shape :: rest => do
    let placed ← place home label (toString index) shape
    return placed :: (← placeAlternatives home label (index + 1) rest)

end

/-- Registers a schema as the object component `home.label` and returns its reference. -/
def decompose (schema : Json) (home label : String) : Registering String := do
  let placed ← placeProperties home label (Shape.propertiesOf schema)
  register .schemas (join home label) (objectOf (requiredOf schema) placed)

/-- Registers the objects below a property and returns what stands for it. -/
def placeProperty (property : Json) (home label name : String) : Registering Json :=
  place home label name (Shape.ofSchema property)

end RouteDoc.Component
