import RouteDoc.Check.ComponentModel
import RouteDoc.Check.SecurityScheme

namespace RouteDoc.Check.Components

def noEntry : String := "data did not match any variant of untagged enum RefOr"

/-- What is wrong with the entries of a section. -/
def sectionProblem? (entry : Json → Option String) : Json → Option String
  | .object entries => entries.findSome? fun (_, value) => entry value
  | value => some (Reading.Cause.wrongType (Reading.foundJson value) "a map").message

def unlessEntry (fits : Json → Bool) (value : Json) : Option String :=
  if fits value then none else some noEntry

/-- Sections other than these three are not looked at. -/
def memberProblem? (name : String) (value : Json) : Option String :=
  if name = "schemas" then
    sectionProblem? (unlessEntry ComponentModel.isSchemaEntry) value
  else if name = "responses" then
    sectionProblem? (unlessEntry ComponentModel.isResponseEntry) value
  else if name = "securitySchemes" then sectionProblem? SecurityScheme.problem? value
  else none

def problem? (components : Entries Json) : Option String :=
  components.findSome? fun (name, value) => memberProblem? name value

end RouteDoc.Check.Components
