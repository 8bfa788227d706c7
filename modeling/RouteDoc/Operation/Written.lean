import RouteDoc.Operation.Basic

namespace RouteDoc

/-- One member, if there is a value. -/
def Json.optional (key : String) (value : Option Json) : Entries Json :=
  (value.map fun v => (key, v)).toList

def Json.optionalString (key : String) (value : Option String) : Entries Json :=
  Json.optional key (value.map Json.string)

/-- An ordered map as an object. -/
def Json.ofEntries {α : Type} (write : α → Json) (entries : Entries α) : Json :=
  .object (entries.map fun (key, value) => (key, write value))

namespace Operation

open Json (optional optionalString ofEntries)

def Location.toJson (location : Location) : Json := .string location.key

def ParameterSchema.toJson (schema : ParameterSchema) : Json :=
  .object (optionalString "type" schema.type ++ optional "example" schema.example? ++
    optionalString "pattern" schema.pattern ++ optionalString "description" schema.description)

def Parameter.toJson (parameter : Parameter) : Json :=
  .object ([("in", parameter.location.toJson), ("name", Json.string parameter.name)] ++
    optionalString "description" parameter.description ++
    optional "required" (parameter.required.map Json.bool) ++
    [("schema", parameter.schema.toJson)])

def DeclaredResponse.toJson (response : DeclaredResponse) : Json :=
  .object (optionalString "description" response.description ++ optional "schema" response.schema)

def Notes.toJson (notes : Notes) : Json :=
  .object (optionalString "summary" notes.summary ++
    optionalString "description" notes.description ++
    optional "responses" (notes.responses.map (ofEntries DeclaredResponse.toJson)))

def Method.toJson (method : Method) : Json :=
  .object ([("schema", method.schema)] ++ optional "swagger" (method.notes.map Notes.toJson))

def Route.toJson (route : Route) : Json :=
  .object [("path", .string route.path), ("methods", ofEntries Method.toJson route.methods)]

def Reference.toJson (reference : Reference) : Json :=
  .object [("$ref", .string reference.target)]

def Media.toJson (media : Media) : Json := .object [("schema", media.schema.toJson)]

def Content.toJson (content : Content) : Json := ofEntries Media.toJson content

def RequestBody.toJson (body : RequestBody) : Json :=
  .object (optional "required" (body.required.map Json.bool) ++
    [("content", Content.toJson body.content)])

end Operation

open Json Operation in
def Operation.toJson (operation : Operation) : Json :=
  .object (optionalString "summary" operation.summary ++
    optionalString "description" operation.description ++
    [("parameters", .array (operation.parameters.map Parameter.toJson))] ++
    optional "requestBody" (operation.requestBody.map RequestBody.toJson) ++
    [("responses", ofEntries Reference.toJson operation.responses)])

end RouteDoc
