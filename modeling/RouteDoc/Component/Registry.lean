import RouteDoc.Component.Name
import RouteDoc.Json.Same

namespace RouteDoc.Component

/-- What a second entry of one name does. -/
inductive Policy where
  | overwrite
  | fail
deriving DecidableEq, Repr

/-- The named schemas and responses of a document. -/
structure Registry where
  schemas : Entries Json := []
  responses : Entries Json := []
  /-- Sections that are carried along untouched. -/
  extra : Entries Json := []
  policy : Policy := .overwrite
  /-- Names whose entry was replaced by a different value, in that order. -/
  overwritten : List (Section × String) := []
deriving Inhabited

/-- A name taken twice where that is refused. -/
structure Duplicate where
  place : Section
  name : String
deriving DecidableEq, Repr

def Duplicate.message (duplicate : Duplicate) : String :=
  "Duplicate component '" ++ duplicate.name ++ "' in components." ++ duplicate.place.key

namespace Registry

def entries (registry : Registry) : Section → Entries Json
  | .schemas => registry.schemas
  | .responses => registry.responses

def get? (registry : Registry) (place : Section) (name : String) : Option Json :=
  (registry.entries place).get? name

def put (registry : Registry) (place : Section) (name : String) (value : Json) : Registry :=
  match place with
  | .schemas => { registry with schemas := registry.schemas.insert name value }
  | .responses => { registry with responses := registry.responses.insert name value }

/-- A known name is refused or takes the new value in its old place, as the policy says. -/
def add (registry : Registry) (place : Section) (name : String) (value : Json) :
    Except Duplicate Registry :=
  match registry.get? place name, registry.policy with
  | none, _ => .ok (registry.put place name value)
  | some _, .fail => .error ⟨place, name⟩
  | some old, .overwrite =>
    let noted := if old.same value then [] else [(place, name)]
    .ok { registry.put place name value with overwritten := registry.overwritten ++ noted }

end Registry

/-- A computation that registers components; what it registered before a failure stays. -/
abbrev Registering := ExceptT Duplicate (StateM Registry)

/-- Adds an entry and returns the reference to it. -/
def register (place : Section) (name : String) (value : Json) : Registering String := do
  match (← get).add place name value with
  | .ok registry =>
    set registry
    return reference place name
  | .error duplicate => throw duplicate

end RouteDoc.Component
