import RouteDoc.Document.Basic
import RouteDoc.Document.Gate
import RouteDoc.Operation.Responses

namespace RouteDoc

namespace Document

open Component (Registering decompose operationName)
open Operation (Method Route RequestBody)

abbrev Assembling := ExceptT Fault (StateM Document)

/-- An empty document over a template: the environment's server, with the module at its end. -/
def start (template : Template) (environment module : String) (metadata : Metadata)
    (policy : Component.Policy) : Except Fault Document :=
  match template.server? environment with
  | none => .error (.wrongEnvironment environment)
  | some server => .ok {
      openapi := template.openapi
      info := { template.info with title := metadata.title, description := metadata.description }
      servers := [{ server with url := server.url ++ module }]
      paths := template.paths
      components := { template.components with policy }
      extensions := template.extensions }

/-- Runs a registration on the components of the document. -/
def onComponents {α : Type} (action : Registering α) : Assembling α := do
  let document ← get
  let (result, components) := action.run.run document.components
  set { document with components }
  match result with
  | .ok value => return value
  | .error cause => throw (.duplicate cause)

/-- The property of a request schema that holds the body, and the label of its component. -/
def bodyKey : String := "body"

/-- Registers what the operation refers to: first the body, then the responses. -/
def registerOperation (path name : String) (method : Method) : Registering Operation := do
  let home := operationName path name
  let requestBody ← match method.bucket? bodyKey with
    | none => pure none
    | some body => do
      let target ← decompose body home bodyKey
      let required := if method.requires bodyKey then some true else none
      pure (some { required, content := Operation.jsonContent target : RequestBody })
  let responses ← match method.responses? with
    | some declared => Operation.registerResponses home declared
    | none => pure Operation.defaultResponses
  return {
    summary := method.notes.bind (·.summary)
    description := method.notes.bind (·.description)
    parameters := method.parameters
    requestBody
    responses }

/-- Puts an operation into the item of its path, which is made if need be. -/
def putOperation (path name : String) (operation : Operation) (document : Document) : Document :=
  let item := (document.paths.get? path).getD []
  { document with paths := document.paths.insert path (item.insert (Text.lower name) operation) }

def addMethods (path : String) : List (String × Method) → Assembling Unit
  | [] => return ()
  | (name, method) :: rest => do
    let operation ← onComponents (registerOperation path name method)
    modify (putOperation path name operation)
    addMethods path rest

/-- Adds one operation for each method; known paths take the new methods in. -/
def addRoute (route : Route) : Assembling Unit := addMethods route.path route.methods

/-- Compiles every request schema of a route, in order. -/
def compileMethods (compiler : Compiler) : List (String × Method) → Except Fault Unit
  | [] => .ok ()
  | (_, method) :: rest => do
    if !method.schema.isNull then compiler method.schema
    compileMethods compiler rest

/-- Adds a route whose request schemas all compile. -/
def addRouteChecked (compiler : Compiler) (route : Route) : Assembling Unit := do
  match compileMethods compiler route.methods with
  | .ok () => addRoute route
  | .error fault => throw fault

def addRoutes : List Route → Assembling Unit
  | [] => return ()
  | route :: rest => do addRoute route; addRoutes rest

/-- Each route is compiled right before it is added. -/
def addRoutesChecked (compiler : Compiler) : List Route → Assembling Unit
  | [] => return ()
  | route :: rest => do addRouteChecked compiler route; addRoutesChecked compiler rest

def validate (checker : Check.Checker) (document : Document) : Except Fault Unit :=
  passes checker document.toJson

end Document
end RouteDoc
