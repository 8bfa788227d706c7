import RouteDoc.Check.Components
import RouteDoc.Check.Issue
import RouteDoc.Check.PathTemplate
import RouteDoc.Check.Reference
import RouteDoc.Check.SchemaSlots
import RouteDoc.Check.ServerUrl
import RouteDoc.Schema.SchemaObject

namespace RouteDoc.Check

open Json.Pointer (child)

/-- The version is a string of the third major version. -/
def versionIssues (document : Json) : List Issue :=
  match (document.get? "openapi").bind Json.asString? with
  | some version =>
    if version.startsWith "3." then []
    else [⟨"/openapi", "unsupported OpenAPI version '" ++ version ++ "'"⟩]
  | none => [⟨"/openapi", "missing required 'openapi' version string"⟩]

def infoIssues (document : Json) : List Issue :=
  match document.get? "info" with
  | some (.object info) =>
    (["title", "version"].filter fun field => !(Entries.get? field info).any Json.isString).map
      fun field =>
      ⟨"/info/" ++ field, "missing required '" ++ field ++ "' string"⟩
  | _ => [⟨"/info", "missing required 'info' object"⟩]

def serverIssues (index : Nat) (server : Json) : List Issue :=
  let location := "/servers/" ++ toString index ++ "/url"
  match (server.get? "url").bind Json.asString? with
  | some url =>
    if ServerUrl.isValid url then []
    else [⟨location, "'" ++ url ++ "' is not a valid URI reference"⟩]
  | none => [⟨location, "missing required 'url'"⟩]

def serversIssues (document : Json) : List Issue :=
  match document.get? "servers" with
  | none => []
  | some (.array servers) => servers.zipIdx.flatMap fun (server, index) => serverIssues index server
  | some _ => [⟨"/servers", "'servers' must be an array"⟩]

/-- Letters, digits, points, underscores and hyphens. -/
def isKeyChar (c : Char) : Bool := c.isAlphanum || c = '.' || c = '_' || c = '-'

def isComponentKey (key : String) : Bool := key ≠ "" && key.toList.all isKeyChar

def keyPattern : String := "^[a-zA-Z0-9._-]+$"

/-- Keys of every section that is an object and no extension. -/
def keyIssues (components : Entries Json) : List Issue :=
  components.flatMap fun (place, entries) =>
    if place.startsWith "x-" then []
    else
      ((entries.asObject?).getD []).keys.filter (!isComponentKey ·) |>.map fun key =>
        ⟨"/components/" ++ place ++ "/" ++ key,
          "component key '" ++ key ++ "' must match " ++ keyPattern⟩

def componentsIssues (document : Json) : List Issue :=
  match document.get? "components" with
  | none => []
  | some (.object components) =>
    keyIssues components ++
      ((Components.problem? components).map fun problem =>
        ⟨"/components", "invalid components: " ++ problem⟩).toList
  | some _ => [⟨"/components", "'components' must be an object"⟩]

/-- Findings in one slot; a reference is left to the check of references. -/
def slotIssues (location : String) (schema : Json) : List Issue :=
  if (schema.get? "$ref").isSome then []
  else (Schema.SchemaObject.check schema).map fun finding =>
    ⟨location ++ finding.pointer, finding.violation.message⟩

def schemaIssues (document : Json) : List Issue :=
  (schemaSlots document).flatMap fun (location, schema) => slotIssues location schema

/-- Local references lead to components. -/
def referenceIssues (document : Json) : List Issue :=
  ((references document).filter fun (_, target) =>
    target.startsWith "#" && !resolves (document.get? "components") target).map
      fun (location, target) => ⟨location, "unresolved reference '" ++ target ++ "'"⟩

/-- The name of a path parameter, with its required flag. -/
def pathParameter? (parameter : Json) : Option (String × Bool) :=
  if (parameter.get? "in").bind Json.asString? = some "path" then
    ((parameter.get? "name").bind Json.asString?).map fun name =>
      (name, (parameter.get? "required").bind Json.asBool? = some true)
  else none

/-- Path parameters are required, and every name of the path is declared. -/
def pathParameterIssues (location : String) (named : List String) (operation : Json) : List Issue :=
  let parameters := ((operation.get? "parameters").bind Json.asArray?).getD []
  let declared := parameters.filterMap fun parameter => (pathParameter? parameter).map Prod.fst
  (parameters.zipIdx.filterMap fun (parameter, index) =>
    match pathParameter? parameter with
    | some (name, false) =>
      some ⟨location ++ "/parameters/" ++ toString index,
        "path parameter '" ++ name ++ "' must be required"⟩
    | _ => none) ++
  (named.filter fun name => !declared.contains name).map fun name =>
    ⟨location ++ "/parameters", "path template parameter '" ++ name ++ "' is not declared"⟩

def operationIssues (location : String) (named : List String) (operation : Json) : List Issue :=
  (if (operation.entriesAt "responses").isEmpty then
    [⟨location ++ "/responses", "operation must define at least one response"⟩] else []) ++
  pathParameterIssues location named operation

def operationsIssues (document : Json) : List Issue :=
  (document.entriesAt "paths").flatMap fun (path, item) =>
    httpMethods.flatMap fun method =>
      match item.get? method with
      | some operation =>
        operationIssues (child "/paths" path ++ "/" ++ method) (templateParameters path) operation
      | none => []

/-- All findings, check by check. -/
def structural : Checker
  | .object members =>
    let document := Json.object members
    versionIssues document ++ infoIssues document ++ serversIssues document ++
      componentsIssues document ++ schemaIssues document ++ referenceIssues document ++
      operationsIssues document
  | _ => [⟨"", "document must be an object"⟩]

end RouteDoc.Check
