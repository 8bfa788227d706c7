import RouteDoc.Operation.Basic
import RouteDoc.Reading.Fields

namespace RouteDoc.Reading

open Operation

def declaredResponse : Reader DeclaredResponse :=
  record "ResponseSpec" (((Fields.of DeclaredResponse.mk).field (.maybe "description" text)).field
    (.maybe "schema" value))

def notes : Reader Notes :=
  record "SwaggerMeta" ((((Fields.of Notes.mk).field (.maybe "summary" text)).field
    (.maybe "description" text)).field (.maybe "responses" (mapOf declaredResponse)))

def method : Reader Method :=
  record "MethodSpec" (((Fields.of Method.mk).field (.withDefault "schema" value .null)).field
    (.maybe "swagger" notes))

def route : Reader Route :=
  record "RouteDefinition" (((Fields.of Route.mk).field (.required "path" text)).field
    (.withDefault "methods" (mapOf method) []))

/-- A location by its key. -/
def locationOf (name : String) : Except Fault Location :=
  match Location.all.find? fun location => location.key = name with
  | some location => .ok location
  | none => .error (.content (.unknownVariant name (Location.all.map Location.key)) none)

/-- The value beside a location's key says nothing. -/
def nothing : Reader Unit := fun source =>
  match source.settle with
  | .json .null => .ok ()
  | .yaml (.void _) _ => .ok ()
  | .yaml (.scalar text style tag _) _ => do
    if ← isAbsent text style (tag.filter fun tag => !Yaml.Scalar.isLocal tag) then return ()
    else source.refuse "unit"
  | _ => source.refuse "unit"

/-- The name that a local tag gives to a location. -/
def tagName? : Yaml.Node → Option String
  | .scalar _ _ tag _ | .sequence tag _ _ | .mapping tag _ _ =>
    tag.bind fun tag => if Yaml.Scalar.isLocal tag then some (tag.drop 1).toString else none
  | _ => none

/-- A location by key, as the only key of an object, or as a tag. -/
def location : Reader Location := fun source =>
  source.locate (
    match source.settle with
    | .json (.string name) => locationOf name
    | .json (.object [(name, value)]) => do
      let found ← locationOf name
      nothing (.json value)
      return found
    | .json (.object _) => .error (.content (.wrongValue .mapping "map with a single key") none)
    | .json _ => source.refuse "string or map"
    | .yaml node _ =>
      match tagName? node, node with
      | some name, _ => do
        let found ← locationOf name
        nothing source
        return found
      | none, .scalar name _ _ _ => locationOf name
      | none, _ => source.refuse "a YAML tag starting with '!'")

def parameterSchema : Reader ParameterSchema :=
  record "ParameterSchema" (((((Fields.of ParameterSchema.mk).field (.maybe "type" text)).field
    (.maybe "example" value)).field (.maybe "pattern" text)).field (.maybe "description" text))

def parameter : Reader Parameter :=
  record "ParameterDescriptor" ((((((Fields.of Parameter.mk).field (.required "in" location)).field
    (.required "name" text)).field (.maybe "description" text)).field
    (.maybe "required" flag)).field (.required "schema" parameterSchema))

def reference : Reader Reference :=
  record "RefObject" ((Fields.of Reference.mk).field (.required "$ref" text))

def media : Reader Media :=
  record "MediaType" ((Fields.of Media.mk).field (.required "schema" reference))

def requestBody : Reader RequestBody :=
  record "RequestBody" (((Fields.of RequestBody.mk).field (.maybe "required" flag)).field
    (.required "content" (mapOf media)))

def operation : Reader Operation :=
  record "Operation" ((((((Fields.of Operation.mk).field (.maybe "summary" text)).field
    (.maybe "description" text)).field (.withDefault "parameters" (listOf parameter) [])).field
    (.maybe "requestBody" requestBody)).field (.withDefault "responses" (mapOf reference) []))

end RouteDoc.Reading
