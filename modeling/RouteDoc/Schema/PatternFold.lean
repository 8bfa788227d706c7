import RouteDoc.Json.Basic

namespace RouteDoc.Schema

def additionalKey : String := "additionalProperties"

def patternKey : String := "patternProperties"

def patternNote : String := "x-pattern"

/-- A schema for additional properties is set, and not merely forbidden. -/
def settled (members : Entries Json) : Bool :=
  match members.get? additionalKey with
  | none | some (.bool false) => false
  | some _ => true

/-- The first schema that is not `false` stands for the additional properties. -/
def offer (folded : Entries Json) (schema : Json) : Entries Json :=
  if settled folded then folded else folded.insert additionalKey schema

mutual

/-- Folds every object of a value. -/
def foldPatterns : Json → Json
  | .object members => .object (foldMembers [] members)
  | .array items => .array (foldItems items)
  | value => value
termination_by structural value => value

/-- Adds members in document order to those already folded. -/
def foldMembers (folded : Entries Json) : List (String × Json) → Entries Json
  | [] => folded
  | (key, value) :: rest =>
    if key = additionalKey then foldMembers (offer folded (foldPatterns value)) rest
    else if key = patternKey then
      match value with
      | .object ((pattern, schema) :: _) =>
        foldMembers ((offer folded (foldPatterns schema)).insert patternNote (.string pattern)) rest
      | _ => foldMembers folded rest
    else foldMembers (folded.insert key (foldPatterns value)) rest

def foldItems : List Json → List Json
  | [] => []
  | item :: rest => foldPatterns item :: foldItems rest

end

/-- A schema other than `false`. -/
def settles : Json → Bool
  | .bool false => false
  | _ => true

mutual

/-- The sizes of the pattern lists of which only the first is kept, in document order. -/
def droppedPatterns : Json → List Nat
  | .object members => droppedInMembers false members
  | .array items => droppedInItems items
  | _ => []
termination_by structural value => value

/-- `set` says whether a schema for additional properties was met before. -/
def droppedInMembers (set : Bool) : List (String × Json) → List Nat
  | [] => []
  | (key, value) :: rest =>
    if key = additionalKey then
      (if set then [] else droppedPatterns value) ++ droppedInMembers (set || settles value) rest
    else if key = patternKey then
      match value with
      | .object ((_, schema) :: others) =>
        (if others = [] then [] else [others.length + 1]) ++
          (if set then [] else droppedPatterns schema) ++
          droppedInMembers (set || settles schema) rest
      | _ => droppedInMembers set rest
    else droppedPatterns value ++ droppedInMembers set rest

def droppedInItems : List Json → List Nat
  | [] => []
  | item :: rest => droppedPatterns item ++ droppedInItems rest

end

end RouteDoc.Schema
