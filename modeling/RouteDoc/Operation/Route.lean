import RouteDoc.Operation.Parameter

namespace RouteDoc.Operation

structure DeclaredResponse where
  description : Option String := none
  schema : Option Json := none
deriving Inhabited

/-- What a method says about itself in the document only. -/
structure Notes where
  summary : Option String := none
  description : Option String := none
  responses : Option (Entries DeclaredResponse) := none
deriving Inhabited

structure Method where
  schema : Json := .null
  notes : Option Notes := none
deriving Inhabited

structure Route where
  path : String
  methods : Entries Method := []
deriving Inhabited

namespace Method

/-- A property of the request schema. -/
def bucket? (method : Method) (name : String) : Option Json :=
  (method.schema.get? "properties").bind (Json.get? name)

def requires (method : Method) (name : String) : Bool := isRequired method.schema name

/-- The parameters of all buckets, bucket by bucket. -/
def parameters (method : Method) : List Parameter :=
  Bucket.all.flatMap fun bucket => ((method.bucket? bucket.key).map bucket.parameters).getD []

/-- The declared responses; none at all differs from an empty list. -/
def responses? (method : Method) : Option (Entries DeclaredResponse) :=
  method.notes.bind Notes.responses

end Method
end RouteDoc.Operation
