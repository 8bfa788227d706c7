import RouteDoc.Json.Pointer
import RouteDoc.Text.Percent

namespace RouteDoc.Check

open Json (Pointer.child)

/-- A segment of a reference: pointer escapes are read before percent-encoding. -/
def decodeSegment (segment : String) : String := Text.Percent.decode (Json.Pointer.decode segment)

/-- The section and name of a reference `#/components/section/name`. -/
def componentOf? (reference : String) : Option (String × String) :=
  match reference.toList with
  | '#' :: '/' :: rest =>
    let (head, rest) := rest.span (· ≠ '/')
    if String.ofList head ≠ "components" then none
    else
      let (place, rest) := (rest.drop 1).span (· ≠ '/')
      match rest with
      | [] => none
      | _ :: name =>
        let name := decodeSegment (String.ofList name)
        if name = "" then none else some (String.ofList place, name)
  | _ => none

mutual

/-- Every `$ref` string with its location, in document order. Nothing below a `$ref` counts. -/
def referencesAt (location : String) : Json → List (String × String)
  | .object members => referencesInMembers location members
  | .array items => referencesInItems location 0 items
  | _ => []
termination_by structural value => value

def referencesInMembers (location : String) : List (String × Json) → List (String × String)
  | [] => []
  | (key, value) :: rest =>
    (if key = "$ref" then
      match value with
      | .string target => [(Pointer.child location key, target)]
      | _ => []
    else referencesAt (Pointer.child location key) value) ++ referencesInMembers location rest

def referencesInItems (location : String) (index : Nat) : List Json → List (String × String)
  | [] => []
  | item :: rest =>
    referencesAt (location ++ "/" ++ toString index) item ++
      referencesInItems location (index + 1) rest

end

def references (document : Json) : List (String × String) := referencesAt "" document

/-- The reference leads to an entry of the components. -/
def resolves (components : Option Json) (reference : String) : Bool :=
  match componentOf? reference with
  | none => false
  | some (place, name) =>
    ((components.bind (Json.get? place)).bind (Json.get? name)).isSome

end RouteDoc.Check
