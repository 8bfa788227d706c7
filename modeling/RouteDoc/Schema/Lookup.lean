import RouteDoc.Schema.Library

namespace RouteDoc.Schema

/-- A schema with the scope it is seen in. -/
structure Target where
  scope : Scope
  schema : Json

/-- A step to a member or to an item. -/
inductive Step where
  | key (name : String)
  | index (i : Nat)
deriving Repr

/-- Steps from a schema that end at a schema. -/
def Draft.leadsToSchema (draft : Draft) : List Step → Bool
  | [] => true
  | .key name :: rest =>
    match draft.holding? name, rest with
    | some .one, rest | some .oneOrList, rest =>
      match rest with
      | .index _ :: rest => leadsToSchema draft rest
      | rest => leadsToSchema draft rest
    | some _, _ :: rest => leadsToSchema draft rest
    | _, _ => false
  | .index _ :: _ => false

/-- An index may start with a plus sign. -/
def indexOf? (segment : String) : Option Nat :=
  let digits := if segment.startsWith "+" then segment.toList.drop 1 else segment.toList
  if digits ≠ [] ∧ digits.all Char.isDigit ∧ Text.natOfDigits digits < Nat.pow 2 64 then
    some (Text.natOfDigits digits)
  else none

/-- Reads `~0` and `~1` in one go. -/
def unescapeChars : List Char → List Char
  | '~' :: '0' :: rest => '~' :: unescapeChars rest
  | '~' :: '1' :: rest => '/' :: unescapeChars rest
  | c :: rest => c :: unescapeChars rest
  | [] => []

/-- Takes one step of a pointer. -/
def stepInto (pointer segment : String) (value : Json) : Except Rejection (Step × Json) :=
  match value with
  | .array items =>
    match indexOf? segment with
    | none => .error (.badIndex segment pointer)
    | some i =>
      match items[i]? with
      | some item => .ok (.index i, item)
      | none => .error (.nowhere pointer)
  | value =>
    let name := String.ofList (unescapeChars segment.toList)
    match value.get? name with
    | some member => .ok (.key name, member)
    | none => .error (.nowhere pointer)

/-- Follows a pointer; a schema with an identity on the way is the new base. -/
def follow (pointer : String) : List Step → List String → Target → Except Rejection Target
  | _, [], target => .ok target
  | steps, segment :: rest, target => do
    let (step, schema) ← stepInto pointer segment target.schema
    let steps := steps ++ [step]
    if target.scope.draft.leadsToSchema steps ∧ (target.scope.draft.id? schema).isSome then
      let scope ← Scope.enter target.scope schema
      follow pointer [] rest ⟨scope, schema⟩
    else follow pointer steps rest ⟨target.scope, schema⟩

/-- The segments of a pointer, percent-decoded as a whole. -/
def segments (pointer : String) : Except Rejection (List String) :=
  match Text.Utf8.decode? (Text.Percent.bytesFrom (pointer.toList.drop 1)) with
  | some text => .ok ((Text.splitAt '/' text.toList).map String.ofList)
  | none => .error (.badEncoding pointer)

/-- Splits at the last hash. -/
def splitReference (reference : String) : String × String :=
  let chars := reference.toList
  let fragment := (chars.reverse.takeWhile (· ≠ '#')).reverse
  if fragment.length = chars.length then (reference, "")
  else (String.ofList (chars.take (chars.length - fragment.length - 1)), String.ofList fragment)

/-- The schema of a name within a document. -/
def Library.named (library : Library) (place : Uri) (resource : Resource) (name : String) :
    Except Rejection Resource :=
  let own := (resource.draft.id? resource.schema).bind fun id =>
    ((Scope.resolve ⟨homeUri, resource.draft⟩ id).toOption).bind fun uri =>
      library.anchor? uri.render name
  match (library.anchor? place.render name).or own with
  | some found => .ok found
  | none => .error (if name.contains '/' then .badAnchor name else .noAnchor name)

/-- What a reference leads to: a document, a place in it, or a schema that has a name in it. -/
def Library.lookup (library : Library) (scope : Scope) (reference : String) :
    Except Rejection Target := do
  let (address, fragment) := splitReference reference
  let place ← if reference.startsWith "#" then pure scope.base else scope.resolve address
  let fragment := if reference.startsWith "#" then
    String.ofList (reference.toList.drop 1) else fragment
  match library.find? place.render with
  | none => throw (.absent place.render .closed)
  | some resource =>
    let target : Target := ⟨{ base := place, draft := resource.draft }, resource.schema⟩
    if fragment.startsWith "/" then follow fragment [] (← segments fragment) target
    else if fragment = "" then return target
    else
      let found ← library.named place resource fragment
      return ⟨{ base := place, draft := found.draft }, found.schema⟩

end RouteDoc.Schema
