import RouteDoc.Text.Lowercase

namespace RouteDoc.Component

inductive Section where
  | schemas
  | responses
deriving DecidableEq, Repr

def Section.key : Section → String
  | schemas => "schemas"
  | responses => "responses"

/-- ASCII letters, digits and the underscore. -/
def isNameChar (c : Char) : Bool := c.isAlphanum || c = '_'

/-- A path without its punctuation. -/
def pathName (path : String) : String := String.ofList (path.toList.filter isNameChar)

def join (home label : String) : String := home ++ "." ++ label

/-- The name of a method of a path: `GET /accounts/x` is `accountsx.get`. -/
def operationName (path method : String) : String := join (pathName path) (Text.lower method)

def reference (place : Section) (name : String) : String :=
  "#/components/" ++ place.key ++ "/" ++ name

end RouteDoc.Component
