import RouteDoc.Schema.Keyword
import RouteDoc.Schema.Metaschema
import RouteDoc.Schema.Rejection
import RouteDoc.Uri.Resolution

namespace RouteDoc.Schema

/-- A schema seen from where it stands. -/
structure Scope where
  base : Uri
  draft : Draft
deriving Inhabited

/-- The target of a reference as a normal URI. -/
def Scope.resolve (scope : Scope) (reference : String) : Except Rejection Uri :=
  if reference.startsWith "#" ∧ scope.base.render.endsWith reference then .ok scope.base
  else
    match Uri.parse reference with
    | .ok uri => .ok (Uri.resolve scope.base uri).normalize
    | .error cause => .error (.badReference reference cause)

/-- The draft that a schema names, or the one around it. -/
def Scope.draftOf (scope : Scope) (schema : Json) : Except Rejection Draft :=
  match (schema.get? "$schema").bind Json.asString? with
  | none => .ok scope.draft
  | some name =>
    match Draft.named? (Draft.dropHashes name) with
    | some draft => .ok draft
    | none => .error (.unknownDraft (Draft.dropHashes name))

/-- The scope within a schema: an identity of its own is a new base. -/
def Scope.enter (scope : Scope) (schema : Json) : Except Rejection Scope := do
  let draft ← scope.draftOf schema
  match draft.id? schema with
  | some id => return { base := ← Scope.resolve ⟨scope.base, draft⟩ id, draft }
  | none => return { scope with draft }

structure Resource where
  schema : Json
  draft : Draft

/-- The base of documents without an identity. -/
def homeUri : Uri := { scheme := some "json-schema", authority := some "", path := "/" }

/-- Places of the drafts' own schemas begin like this. -/
def knownPrefixes : List String := Draft.later.map Prod.fst ++ Draft.all.map Draft.folder

def isKnown (reference : String) : Bool := knownPrefixes.any fun start => reference.startsWith start

structure Library where
  resources : List (String × Resource) := []
  /-- Names within a document, each with the base it stands under. -/
  anchors : List ((String × String) × Resource) := []
  /-- Documents that are referred to from outside. -/
  wanted : List Uri := []
  /-- References already looked at, each with its base. -/
  met : List (String × String) := []

namespace Library

def find? (library : Library) (place : String) : Option Resource :=
  Entries.get? place library.resources

def anchor? (library : Library) (place name : String) : Option Resource :=
  (library.anchors.find? fun entry => entry.1 = (place, name)).map Prod.snd

def addResource (place : Uri) (resource : Resource) (library : Library) : Library :=
  { library with resources := Entries.insert place.render resource library.resources }

/-- The latest of equal names counts. -/
def addAnchor (base : Uri) (name : String) (resource : Resource) (library : Library) : Library :=
  { library with anchors := ((base.render, name), resource) :: library.anchors }

end Library

abbrev Surveying := StateT Library (Except Rejection)

/-- The member at a path of keys and indices. -/
def memberAt? : List String → Json → Option Json
  | [], value => some value
  | step :: rest, .object members => (Entries.get? step members).bind (memberAt? rest)
  | step :: rest, .array items =>
    (step.toNat?.bind fun index => items[index]?).bind (memberAt? rest)
  | _ :: _, _ => none

/-- The segments of a pointer behind a hash, with escapes decoded. -/
def localPath? (reference : String) : Option (List String) :=
  match (Text.splitAt '/' (reference.toList.drop 1)).map fun part =>
    Json.Pointer.decode (String.ofList part) with
  | "" :: segments => some segments
  | _ => none

/-- References that lead out of the document, also behind local references. -/
def findWanted (root : Json) : Nat → Scope → Json → Surveying Unit
  | 0, _, _ => return ()
  | depth + 1, scope, schema => do
    for key in referenceKeys schema do
      match (schema.get? key).bind Json.asString? with
      | none => pure ()
      | some reference =>
        if isKnown reference then return ()
        else if (← get).met.contains (scope.base.render, reference) then pure ()
        else
          modify fun library =>
            { library with met := (scope.base.render, reference) :: library.met }
          if reference.startsWith "#" then
            match (localPath? reference).bind fun path => memberAt? path root with
            | some target => do
              findWanted root depth scope target
              for below in scope.draft.subschemas target do
                findWanted root depth scope below
            | none => pure ()
          else
            let target ← scope.resolve reference
            modify fun library =>
              { library with wanted := library.wanted ++ [target.withoutFragment] }
where
  /-- Of few members each is looked at in its place. -/
  referenceKeys (schema : Json) : List String :=
    let members := schema.asObject?.getD []
    if members.length < 3 then members.keys.filter fun key => key = "$ref" || key = "$schema"
    else ["$ref", "$schema"]

/-- Takes in one schema and returns the schemas right below it. -/
def visit (root : Json) (depth : Nat) (outer : Scope) (schema : Json) :
    Surveying (List (Scope × Json)) := do
  let scope ← match outer.draft.id? schema with
    | some id => do
      let base ← outer.resolve id
      modify (Library.addResource base ⟨schema, outer.draft⟩)
      pure { outer with base }
    | none => pure outer
  match scope.draft.anchor? schema with
  | some name => modify (Library.addAnchor scope.base name ⟨schema, scope.draft⟩)
  | none => pure ()
  if scope.base.scheme ≠ some "urn" then findWanted root depth scope schema
  (scope.draft.subschemas schema).mapM fun below => do
    return ({ scope with draft := ← scope.draftOf below }, below)

/-- Takes in schemas level by level. -/
def visitAll (root : Json) (depth : Nat) : Nat → List (Scope × Json) → Surveying Unit
  | 0, _ => return ()
  | _, [] => return ()
  | levels + 1, level => do
    let next ← level.mapM fun (scope, schema) => visit root depth scope schema
    visitAll root depth levels next.flatten

/-- A draft's own schema, as far as references lead into it. -/
def ownSchema (draft : Draft) : Json :=
  let names (keys : List String) : Json := .object (keys.map fun key => (key, .object []))
  let (keywords, count) := match draft with
    | .four => (Metaschema.fourth, "positiveInteger")
    | .six => (Metaschema.sixth, "nonNegativeInteger")
    | .seven => (Metaschema.seventh, "nonNegativeInteger")
  .object [
    ("definitions", names
      ["schemaArray", count, count ++ "Default0", "simpleTypes", "stringArray"]),
    ("properties", names (keywords.map Prod.fst))]

/-- Places of later drafts, which are not looked into. -/
def laterPlaces : List String :=
  Draft.later.flatMap fun (folder, parts) =>
    (folder ++ "schema") :: parts.map fun part => folder ++ "meta/" ++ part

/-- The schemas that every document can refer to. -/
def Library.shared : Library where
  resources := (Draft.all.map fun draft => (draft.place, ⟨ownSchema draft, draft⟩)) ++
    laterPlaces.map fun place => (place, ⟨.object [], .seven⟩)

/-- More steps than there are references to follow in a value. -/
def reach (value : Json) : Nat := 2 * value.compact.length + 2

/-- The base of a document. -/
def rootScope (draft : Draft) (schema : Json) : Except Rejection Scope := do
  match draft.id? schema with
  | some id => return { base := ← Scope.resolve ⟨homeUri, draft⟩ id, draft }
  | none => return { base := homeUri, draft }

/-- Collects what references in a document can lead to. Documents elsewhere are not fetched. -/
def survey (scope : Scope) (schema : Json) : Except Rejection Library := do
  let start := Library.shared.addResource scope.base ⟨schema, scope.draft⟩
  let (_, library) ←
    (visitAll schema (reach schema) (nesting schema + 1) [(scope, schema)]).run start
  match library.wanted.find? fun uri => (library.find? uri.render).isNone with
  | some uri => throw (.absent uri.render (.unknownScheme (uri.scheme.getD "")))
  | none => return library

end RouteDoc.Schema
