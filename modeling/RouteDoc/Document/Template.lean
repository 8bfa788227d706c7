import RouteDoc.Component.Registry
import RouteDoc.Operation.Basic

namespace RouteDoc.Document

structure Info where
  title : Option String := none
  description : Option String := none
  version : String := "1.0.0"
  extra : Entries Json := []
deriving Inhabited

structure Server where
  url : String
  description : Option String := none
  extra : Entries Json := []
deriving Inhabited

structure Template where
  openapi : String
  info : Info
  /-- The server of each environment. -/
  servers : Entries Server := []
  paths : Entries PathItem := []
  components : Component.Registry := {}
  extensions : Entries Json := []
deriving Inhabited

def Template.server? (template : Template) (environment : String) : Option Server :=
  template.servers.get? environment

/-- The template used where no other is given. -/
def Template.base : Template where
  openapi := "3.0.0"
  info := { title := some "", description := some "" }
  servers := [
    ("default", {
      url := "http://localhost:3000/"
      description := some "Local development server" }),
    ("staging", {
      url := "https://staging.api.example.com/"
      description := some "Staging gateway" }),
    ("production", {
      url := "https://api.example.com/"
      description := some "Production gateway" })]
  components := {
    responses := [("default200", .object [("description", .string "Successful operation")])] }

end RouteDoc.Document
