import RouteDoc.Document.Basic
import RouteDoc.Document.Fault
import RouteDoc.Check.Issue
import RouteDoc.Reading.Operation

namespace RouteDoc.Reading

open Document (Info Server Template Metadata)

def info : Reader Info :=
  openRecord "Info" ((((Fields.of Info.mk).field (.maybe "title" text)).field
    (.maybe "description" text)).field (.withDefault "version" text "1.0.0"))

def server : Reader Server :=
  openRecord "ServerTemplate" (((Fields.of Server.mk).field (.required "url" text)).field
    (.maybe "description" text))

def registry : Reader Component.Registry :=
  openRecord "ComponentRegistry"
    (((Fields.of fun schemas responses extra =>
        ({ schemas, responses, extra } : Component.Registry)).field
      (.withDefault "schemas" (mapOf value) [])).field (.withDefault "responses" (mapOf value) []))

def pathItem : Reader PathItem := mapOf operation

def template : Reader Template :=
  openRecord "DocumentTemplate" ((((((Fields.of Template.mk).field
    (.required "openapi" text)).field (.required "info" info)).field
    (.withDefault "servers" (mapOf server) [])).field
    (.withDefault "paths" (mapOf pathItem) [])).field
    (.withDefault "components" registry {}))

def document : Reader RouteDoc.Document :=
  openRecord "OpenApiDocument" ((((((Fields.of RouteDoc.Document.mk).field
    (.required "openapi" text)).field (.required "info" info)).field
    (.required "servers" (listOf server))).field
    (.required "paths" (mapOf pathItem))).field
    (.required "components" registry))

def metadata : Reader Metadata :=
  record "DocumentMetadata" (((Fields.of Metadata.mk).field (.maybe "title" text)).field
    (.maybe "description" text))

def issue : Reader Check.Issue :=
  record "ValidationIssue" (((Fields.of Check.Issue.mk).field (.required "path" text)).field
    (.required "message" text))

/-- Reads a YAML text that holds one document. -/
def readText {α : Type} (reader : Reader α) (text : String) : Except Fault α := do
  let stream := Yaml.Stream.ofText text
  let value ← reader (.yaml (Yaml.Node.ofStream stream) .root)
  match stream.fault with
  | some fault => throw (.text fault)
  | none => if stream.more then throw .manyDocuments else return value

/-- Reads a document template from a text. -/
def templateOfText (text : String) : Except RouteDoc.Fault Template :=
  match readText template text with
  | .ok found => .ok found
  | .error fault => .error (.template fault.message)

/-- Reads a document template from the bytes of a file. -/
def templateOfBytes (bytes : List Nat) : Except RouteDoc.Fault Template :=
  match Text.Utf8.decode? bytes with
  | some text => templateOfText text
  | none => .error (.file .notText)

end RouteDoc.Reading
