import RouteDoc.Document.Assembly
import RouteDoc.Proofs.Component.Spot

namespace RouteDoc

open Component

namespace Operation

/-- What is registered for a declared response. -/
def responseComponent (name : String) (response : DeclaredResponse) : Registration :=
  ⟨.responses, name, .object (Json.optionalString "description" response.description ++
    (response.schema.map fun _ =>
      ("content", Content.toJson (jsonContent (schemaReference name responseLabel)))).toList)⟩

/-- The components of a declared response, those of its schema first. -/
def responseRegistrations (home : String) (entry : String × DeclaredResponse) :
    List Registration :=
  (entry.2.schema.map fun schema => cut schema (join home entry.1) responseLabel).getD [] ++
    [responseComponent (join home entry.1) entry.2]

theorem registerResponse_eq (home status : String) (response : DeclaredResponse) :
    registerResponse home status response = do
      registerAll (responseRegistrations home (status, response))
      return ⟨reference .responses (join home status)⟩ := by
  cases hs : response.schema <;>
    simp [registerResponse, responseRegistrations, responseComponent, hs, decompose_eq,
      registerAll_append, register_eq]

/-- The references to the components of declared responses. -/
def responseReferences (home : String) (declared : Entries DeclaredResponse) :
    Entries Reference :=
  declared.map fun (status, _) => (status, ⟨reference .responses (join home status)⟩)

theorem registerResponses_eq (home : String) (declared : Entries DeclaredResponse) :
    registerResponses home declared = do
      registerAll (declared.flatMap (responseRegistrations home))
      return responseReferences home declared := by
  induction declared with
  | nil => simp [registerResponses, registerAll, responseReferences]
  | cons entry rest ih =>
    obtain ⟨status, response⟩ := entry
    simp [registerResponses, registerResponse_eq, ih, registerAll_append, responseReferences]

end Operation

namespace Document

open Operation (Method RequestBody)

/-- The components of an operation: those of the body, then those of the responses. -/
def registrations (path name : String) (method : Method) : List Registration :=
  ((method.bucket? bodyKey).map fun body =>
    cut body (operationName path name) bodyKey).getD [] ++
  (method.responses?.map fun declared =>
    declared.flatMap (Operation.responseRegistrations (operationName path name))).getD []

/-- The request body of an operation whose schema has one. -/
def builtBody (home : String) (method : Method) : Option RequestBody :=
  (method.bucket? bodyKey).map fun _ => {
    required := if method.requires bodyKey then some true else none
    content := Operation.jsonContent (schemaReference home bodyKey) }

/-- The responses of an operation: the declared ones, else the shared one. -/
def builtResponses (home : String) (method : Method) : Entries Operation.Reference :=
  (method.responses?.map (Operation.responseReferences home)).getD Operation.defaultResponses

/-- Only an empty list of declared responses leaves none. -/
theorem builtResponses_eq_nil_iff {home : String} {method : Method} :
    builtResponses home method = [] ↔ method.responses? = some [] := by
  unfold builtResponses
  cases method.responses? with
  | none => simp [Operation.defaultResponses]
  | some declared => simp [Operation.responseReferences]

def builtOperation (path name : String) (method : Method) : Operation where
  summary := method.notes.bind (·.summary)
  description := method.notes.bind (·.description)
  parameters := method.parameters
  requestBody := builtBody (operationName path name) method
  responses := builtResponses (operationName path name) method

/-- Building an operation is registering its components. -/
theorem registerOperation_eq (path name : String) (method : Method) :
    registerOperation path name method = do
      registerAll (registrations path name method)
      return builtOperation path name method := by
  unfold registerOperation registrations builtOperation builtBody builtResponses
  cases method.bucket? bodyKey <;> cases method.responses? <;>
    simp [decompose_eq, Operation.registerResponses_eq, registerAll_append, registerAll]

end Document
end RouteDoc
