import RouteDoc.Json.Basic

namespace RouteDoc.Schema.Downgrade

/-- Identity and comments have no place in the dialect; an `id` goes only if it is a string. -/
def dropIdentity (members : Entries Json) : Entries Json :=
  let members := ((members.erase "$schema").erase "$id").erase "$comment"
  if (members.get? "id").any Json.isString then members.erase "id" else members

/-- A constant becomes an enumeration of one value, unless there is one. -/
def constToEnum (members : Entries Json) : Entries Json :=
  match members.get? "const" with
  | none => members
  | some value =>
    let members := members.erase "const"
    if members.has "enum" then members else members.insert "enum" (.array [value])

def isNullType : Json → Bool
  | .string "null" => true
  | _ => false

def nullableIf (nullable : Bool) (members : Entries Json) : Entries Json :=
  if nullable then members.insert "nullable" (.bool true) else members

mutual

/-- A branch of alternatives that only declares a type; a nested type list is treated alike. -/
def typeBranch : Json → Json
  | .array types =>
    let nullable := types.any isNullType
    .object (nullableIf nullable (
      match types.filter (fun t => !isNullType t) with
      | [] => []
      | [single] => [("type", single)]
      | _ => [("anyOf", .array (typeBranches types))]))
  | type => .object [("type", type)]
termination_by structural type => type

/-- One branch for each type other than null. -/
def typeBranches : List Json → List Json
  | [] => []
  | type :: rest =>
    if isNullType type then typeBranches rest else typeBranch type :: typeBranches rest

end

/-- A type list becomes its single type or alternatives; null in it makes the schema nullable. -/
def splitTypes (members : Entries Json) : Entries Json :=
  match members.get? "type" with
  | some (.array types) =>
    nullableIf (types.any isNullType) (
      match types.filter (fun t => !isNullType t) with
      | [] => members.erase "type"
      | [single] => members.insert "type" single
      | _ =>
        let members := members.erase "type"
        if members.has "anyOf" then members
        else members.insert "anyOf" (.array (typeBranches types)))
  | _ => members

/-- A numeric exclusive bound takes the place of the plain bound, with a flag beside it. -/
def flagBound (flag bound : String) (members : Entries Json) : Entries Json :=
  match members.get? flag with
  | some (.number limit) => (members.insert bound (.number limit)).insert flag (.bool true)
  | _ => members

/-- Only the first of several examples is kept, and only where no single one stands. -/
def firstExample (members : Entries Json) : Entries Json :=
  match members.get? "examples" with
  | none => members
  | some examples =>
    let members := members.erase "examples"
    match examples with
    | .array (first :: _) =>
      if members.has "example" then members else members.insert "example" first
    | _ => members

/-- The changes to one schema object, its child schemas aside. -/
def downgradeNode (members : Entries Json) : Entries Json :=
  firstExample (flagBound "exclusiveMaximum" "maximum" (flagBound "exclusiveMinimum" "minimum"
    (splitTypes (constToEnum (dropIdentity members)))))

/-- Keywords whose members are schemas by name. -/
def namedSlots : List String := ["properties", "definitions"]

/-- Keywords that hold a schema or a list of schemas. -/
def directSlots : List String := ["items", "not", "additionalProperties", "oneOf", "anyOf", "allOf"]

end Downgrade

open Downgrade in
mutual

/-- Lowers a schema and the schemas below it; a list item by item. -/
def downgrade : Json → Json
  | .object members => .object (downgradeNode (downgradeChildren members))
  | .array items => .array (downgradeItems items)
  | value => value
termination_by structural value => value

/-- Lowers the child schemas of an object and leaves its other members alone. -/
def downgradeChildren : List (String × Json) → Entries Json
  | [] => []
  | (key, value) :: rest =>
    (if namedSlots.contains key then (key, downgradeNamed value)
      else if directSlots.contains key then (key, downgrade value)
      else (key, value)) :: downgradeChildren rest

def downgradeNamed : Json → Json
  | .object schemas => .object (downgradeEach schemas)
  | value => value

def downgradeEach : List (String × Json) → Entries Json
  | [] => []
  | (name, schema) :: rest => (name, downgrade schema) :: downgradeEach rest

def downgradeItems : List Json → List Json
  | [] => []
  | item :: rest => downgrade item :: downgradeItems rest

end

end RouteDoc.Schema
