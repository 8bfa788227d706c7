import RouteDoc.Operation.Route

namespace RouteDoc.Operation

structure Reference where
  target : String
deriving DecidableEq, Repr, Inhabited

/-- The content of one media type. -/
structure Media where
  schema : Reference
deriving DecidableEq, Repr, Inhabited

abbrev Content := Entries Media

def jsonMediaType : String := "application/json"

def jsonContent (target : String) : Content := [(jsonMediaType, ⟨⟨target⟩⟩)]

structure RequestBody where
  required : Option Bool := none
  content : Content
deriving Inhabited

end Operation

structure Operation where
  summary : Option String := none
  description : Option String := none
  parameters : List Operation.Parameter := []
  requestBody : Option Operation.RequestBody := none
  responses : Entries Operation.Reference := []
deriving Inhabited

/-- The operations of a path by lower-case method. -/
abbrev PathItem := Entries Operation

end RouteDoc
