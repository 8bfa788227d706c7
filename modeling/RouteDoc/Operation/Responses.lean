import RouteDoc.Component.Decomposition
import RouteDoc.Operation.Written

namespace RouteDoc.Operation

open Component (Registering register decompose join reference)

/-- The shared response of operations that declare none. -/
def defaultResponse : String := "default200"

def responseLabel : String := "response"

/-- Registers the response and, before it, the components of its schema. -/
def registerResponse (home : String) (status : String) (response : DeclaredResponse) :
    Registering Reference := do
  let name := join home status
  let content ← match response.schema with
    | none => pure []
    | some schema => do
      let target ← decompose schema name responseLabel
      pure [("content", Content.toJson (jsonContent target))]
  let value := Json.object (Json.optionalString "description" response.description ++ content)
  return ⟨← register .responses name value⟩

/-- Declared responses keep their order. -/
def registerResponses (home : String) :
    Entries DeclaredResponse → Registering (Entries Reference)
  | [] => return []
  | (status, response) :: rest => do
    let entry ← registerResponse home status response
    return (status, entry) :: (← registerResponses home rest)

def defaultResponses : Entries Reference :=
  [("200", ⟨reference .responses defaultResponse⟩)]

end RouteDoc.Operation
