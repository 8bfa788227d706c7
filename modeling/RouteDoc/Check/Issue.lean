import RouteDoc.Json.Printer

namespace RouteDoc.Check

/-- What is wrong, and the pointer to where. -/
structure Issue where
  path : String
  message : String
deriving DecidableEq, Repr, Inhabited

def Issue.toJson (issue : Issue) : Json :=
  .object [("path", .string issue.path), ("message", .string issue.message)]

/-- A check lists all its findings; a document without findings passes. -/
abbrev Checker := Json → List Issue

end RouteDoc.Check
