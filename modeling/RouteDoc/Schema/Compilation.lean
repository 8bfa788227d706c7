import RouteDoc.Schema.Lookup
import RouteDoc.Schema.Pattern.Reader

namespace RouteDoc.Schema

/-- References that were followed before are not followed again. -/
abbrev Compiling := StateT (List String) (Except Rejection)

/-- A name or an address of the prescribed form. -/
def acceptsFormat : Format → String → Bool
  | .regex, text => Pattern.isRegular text
  | .uri, text => (Uri.parse text).toOption.any fun uri => uri.scheme.isSome
  | .uriReference, text => (Uri.parse text).toOption.isSome

def reject {α : Type} (cause : Violation) : Compiling α := throw (.violation cause)

/-- A matcher has to run the expression; the value is what the complaint is about. -/
def requireRuns (expression : String) (value : Json) : Compiling Unit :=
  if Pattern.canRun expression then return () else reject (.badFormat value .regex)

def requirePattern : Json → Compiling Unit
  | .string expression => requireRuns expression (.string expression)
  | _ => return ()

def isObject : Json → Bool
  | .object _ => true
  | _ => false

def isForbidding : Json → Bool
  | .bool false => true
  | _ => false

/-- The keywords that one member brings into use. Rules for additional members bring in those for
the members they go beside. -/
def usedWith (draft : Draft) (parent : Entries Json) (key : String) (value : Json) : List String :=
  let present (keys : List String) : List String := keys.filter fun key => Entries.has key parent
  let additional := Entries.get? "additionalProperties" parent
  match key with
  | "additionalProperties" =>
    if Entries.has "patternProperties" parent then
      "patternProperties" ::
        (if isObject value then ["additionalProperties"] else []) ++ present ["properties"]
    else if isObject value || isForbidding value then
      present ["properties"] ++ ["additionalProperties"]
    else []
  | "patternProperties" => if additional.any isForbidding then [] else ["patternProperties"]
  | "properties" =>
    if additional.any fun value => isObject value || isForbidding value then [] else ["properties"]
  | "additionalItems" =>
    if (Entries.get? "items" parent).any fun items => items.asArray?.isSome then
      ["additionalItems"] else []
  | "if" =>
    match draft, present ["then", "else"] with
    | .seven, branch :: more => "if" :: branch :: more
    | _, _ => []
  | "then" | "else" | "definitions" => []
  | "pattern" => ["pattern"]
  | key => if (draft.holding? key).isSome then [key] else []

/-- The keywords in use, in the order in which they are compiled. -/
def inUse (draft : Draft) (parent : Entries Json) : List String :=
  parent.flatMap fun (key, value) => usedWith draft parent key value

/-- Runs the actions of some keywords. -/
def runAll (actions : List (String × Compiling Unit)) : List String → Compiling Unit
  | [] => return ()
  | key :: rest => do
    (Entries.get? key actions).getD (pure ())
    runAll actions rest

def enterScope (scope : Scope) (schema : Json) : Compiling Scope := StateT.lift (scope.enter schema)

mutual

/-- Compiles a schema in its own scope; `refer` follows references. A reference stands alone. -/
def compileIn (refer : Scope → String → Compiling Unit) (scope : Scope) : Json → Compiling Unit
  | .bool _ => return ()
  | .object members =>
    match Entries.get? "$ref" members with
    | some (.string reference) => refer scope reference
    | some value => reject (.wrongType value [.string])
    | none => runAll (actions refer scope members) (inUse scope.draft members)
  | value => reject (.wrongType value [.boolean, .object])
termination_by structural schema => schema

/-- What each member has to do if it is in use. -/
def actions (refer : Scope → String → Compiling Unit) (scope : Scope) :
    List (String × Json) → List (String × Compiling Unit)
  | [] => []
  | (key, value) :: rest =>
    (key,
      if key = "pattern" then requirePattern value
      else if key = "patternProperties" then compileByPattern refer scope value
      else if key = "properties" then compileByName refer scope value
      else if key = "dependencies" then compileDependent refer scope value
      else if value.asArray?.isSome then compileList refer scope value
      else do compileIn refer (← enterScope scope value) value) :: actions refer scope rest

def compileList (refer : Scope → String → Compiling Unit) (scope : Scope) : Json → Compiling Unit
  | .array items => compileItems refer scope items
  | _ => return ()

def compileByName (refer : Scope → String → Compiling Unit) (scope : Scope) : Json → Compiling Unit
  | .object members => compileMembers refer scope members
  | _ => return ()

def compileByPattern (refer : Scope → String → Compiling Unit) (scope : Scope) :
    Json → Compiling Unit
  | .object members => compilePatterns refer scope members
  | _ => return ()

def compileDependent (refer : Scope → String → Compiling Unit) (scope : Scope) :
    Json → Compiling Unit
  | .object members => compileDependencies refer scope members
  | _ => return ()

def compileItems (refer : Scope → String → Compiling Unit) (scope : Scope) :
    List Json → Compiling Unit
  | [] => return ()
  | schema :: rest => do
    compileIn refer (← enterScope scope schema) schema
    compileItems refer scope rest

def compileMembers (refer : Scope → String → Compiling Unit) (scope : Scope) :
    List (String × Json) → Compiling Unit
  | [] => return ()
  | (_, schema) :: rest => do
    compileIn refer (← enterScope scope schema) schema
    compileMembers refer scope rest

def compilePatterns (refer : Scope → String → Compiling Unit) (scope : Scope) :
    List (String × Json) → Compiling Unit
  | [] => return ()
  | (expression, schema) :: rest => do
    requireRuns expression schema
    compileIn refer (← enterScope scope schema) schema
    compilePatterns refer scope rest

/-- Lists of names need no compilation. -/
def compileDependencies (refer : Scope → String → Compiling Unit) (scope : Scope) :
    List (String × Json) → Compiling Unit
  | [] => return ()
  | (_, schema) :: rest => do
    if schema.asArray?.isNone then compileIn refer (← enterScope scope schema) schema
    compileDependencies refer scope rest

end

/-- Follows a reference and compiles its target, through at most `depth` further references. -/
def compileReference (library : Library) : Nat → Scope → String → Compiling Unit
  | 0, _, _ => return ()
  | depth + 1, scope, reference => do
    let place := (← StateT.lift (scope.resolve reference)).render
    if (← get).contains place then return ()
    else
      modify (place :: ·)
      let target ← StateT.lift (library.lookup scope reference)
      compileIn (compileReference library depth) target.scope target.schema

/-- Compiles everything in use in a schema. -/
def compileRoot (library : Library) (scope : Scope) (schema : Json) : Compiling Unit := do
  compileIn (compileReference library (reach schema)) (← enterScope scope schema) schema

/-- The first fault found in a schema. -/
def compile (draft : Draft) (schema : Json) : Except Rejection Unit := do
  let scope ← rootScope draft schema
  let library ← survey scope schema
  match Metaschema.check draft acceptsFormat schema with
  | finding :: _ => throw (.violation finding.violation)
  | [] => (compileRoot library scope schema).run' []

end RouteDoc.Schema
