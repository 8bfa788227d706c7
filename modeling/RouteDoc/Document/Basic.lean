import RouteDoc.Document.Template
import RouteDoc.Operation.Written

namespace RouteDoc

structure Document where
  openapi : String
  info : Document.Info
  servers : List Document.Server
  paths : Entries PathItem := []
  components : Component.Registry := {}
  extensions : Entries Json := []
deriving Inhabited

open Json (optional optionalString ofEntries)

/-- Extra sections follow the two known ones. -/
def Component.Registry.toJson (registry : Component.Registry) : Json :=
  .object ([("schemas", Json.object registry.schemas),
    ("responses", Json.object registry.responses)] ++
    registry.extra)

def PathItem.toJson (item : PathItem) : Json := ofEntries Operation.toJson item

namespace Document

/-- The title and description a document is given. -/
structure Metadata where
  title : Option String := none
  description : Option String := none
deriving DecidableEq, Repr, Inhabited

def Metadata.toJson (metadata : Metadata) : Json :=
  let field (value : Option String) : Json := (value.map Json.string).getD .null
  .object [("title", field metadata.title), ("description", field metadata.description)]

def Info.toJson (info : Info) : Json :=
  .object (optionalString "title" info.title ++ optionalString "description" info.description ++
    [("version", .string info.version)] ++ info.extra)

def Server.toJson (server : Server) : Json :=
  .object ([("url", .string server.url)] ++ optionalString "description" server.description ++
    server.extra)

def Template.toJson (template : Template) : Json :=
  .object ([("openapi", .string template.openapi), ("info", template.info.toJson),
    ("servers", ofEntries Server.toJson template.servers),
    ("paths", ofEntries PathItem.toJson template.paths),
    ("components", template.components.toJson)] ++ template.extensions)

def toJson (document : Document) : Json :=
  .object ([("openapi", .string document.openapi), ("info", document.info.toJson),
    ("servers", .array (document.servers.map Server.toJson)),
    ("paths", ofEntries PathItem.toJson document.paths),
    ("components", document.components.toJson)] ++ document.extensions)

/-- The operation of a path and a method in any letter case. -/
def operation? (document : Document) (path method : String) : Option Operation :=
  (document.paths.get? path).bind (Entries.get? (Text.lower method))

end Document
end RouteDoc
