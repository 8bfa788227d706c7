import RouteDoc.Json.Pointer

namespace RouteDoc.Check

open Json.Pointer (child)

/-- The methods that a path item can define. -/
def httpMethods : List String :=
  ["get", "put", "post", "delete", "options", "head", "patch", "trace"]

abbrev Slots := List (String × Json)

/-- The schema of a parameter or of a media type. -/
def schemaSlot (location : String) (owner : Json) : Slots :=
  match owner.get? "schema" with
  | some schema => [(location ++ "/schema", schema)]
  | none => []

/-- The schemas of the media types of a request body or a response. -/
def contentSlots (location : String) (owner : Json) : Slots :=
  (owner.entriesAt "content").flatMap fun (mediaType, media) =>
    schemaSlot (child (location ++ "/content") mediaType) media

def parameterSlots (location : String) (owner : Json) : Slots :=
  (((owner.get? "parameters").bind Json.asArray?).getD []).zipIdx.flatMap fun (parameter, index) =>
    schemaSlot (location ++ "/parameters/" ++ toString index) parameter

def componentSlots (components : Json) : Slots :=
  (components.entriesAt "schemas").map (fun (name, schema) =>
    (child "/components/schemas" name, schema)) ++
  ["responses", "requestBodies"].flatMap (fun place =>
    (components.entriesAt place).flatMap fun (name, owner) =>
      contentSlots (child ("/components/" ++ place) name) owner) ++
  (components.entriesAt "parameters").flatMap fun (name, parameter) =>
    schemaSlot (child "/components/parameters" name) parameter

def operationSlots (location : String) (operation : Json) : Slots :=
  parameterSlots location operation ++
  (match operation.get? "requestBody" with
  | some body => contentSlots (location ++ "/requestBody") body
  | none => []) ++
  (operation.entriesAt "responses").flatMap fun (status, response) =>
    contentSlots (child (location ++ "/responses") status) response

def pathSlots (path : String) (item : Json) : Slots :=
  let location := child "/paths" path
  parameterSlots location item ++
  httpMethods.flatMap fun method =>
    match item.get? method with
    | some operation => operationSlots (location ++ "/" ++ method) operation
    | none => []

/-- All slots: those of the components, then those of the paths. -/
def schemaSlots (document : Json) : Slots :=
  (match document.get? "components" with
  | some components => componentSlots components
  | none => []) ++
  (document.entriesAt "paths").flatMap fun (path, item) => pathSlots path item

end RouteDoc.Check
