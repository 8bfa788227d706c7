import RouteDoc.Json.Same
import RouteDoc.Schema.Violation

namespace RouteDoc.Schema

/-- A rule refers to a named definition by `see`. -/
inductive Rule where
  | types (allowed : List TypeName)
  | values (allowed : List Json)
  | atLeast (bound : Int)
  | moreThan (bound : Int)
  | minItems (least : Nat)
  | maxItems (most : Nat)
  | distinct
  | form (format : Format)
  | items (rules : List Rule)
  | required (names : List String)
  /-- A member that needs others beside it. -/
  | dependent (name : String) (needed : List String)
  /-- Members by name, visited in the order of the rule. -/
  | members (fields : List (String × List Rule))
  /-- Every member that is there. -/
  | everyMember (rules : List Rule)
  | everyName (rules : List Rule)
  /-- No members but these and extensions, visited in the order of the value. -/
  | only (fields : List (String × List Rule))
  | choice (kind : Choice) (branches : List (List Rule))
  | see (definition : String)
deriving Inhabited

/-- How the rules read a value. -/
structure Dialect where
  /-- A fraction literal such as `1.0` is an integer. -/
  wholeFractions : Bool
  accepts : Format → String → Bool

def Dialect.hasType (dialect : Dialect) (type : TypeName) (value : Json) : Bool :=
  match type, value with
  | .array, .array _ => true
  | .boolean, .bool _ => true
  | .integer, .number (.integer _) => true
  | .integer, .number (.binary x) => dialect.wholeFractions && x.isWhole
  | .null, .null => true
  | .number, .number _ => true
  | .object, .object _ => true
  | .string, .string _ => true
  | _, _ => false

/-- Two items of a list are equal. -/
def hasRepeats : List Json → Bool
  | [] => false
  | item :: rest => rest.any (Json.equal item) || hasRepeats rest

/-- Extension members may stand anywhere. -/
def isExtension (name : String) : Bool := name.startsWith "x-"

def itemsOf : Json → List (Json × Nat)
  | .array items => items.zipIdx
  | _ => []

def membersOf : Json → Entries Json
  | .object members => members
  | _ => []

def numberOrder (value : Json) (bound : Int) : Option Ordering :=
  match value with
  | .number n => some (Number.order n (.integer bound))
  | _ => none

mutual

/-- The violations of one rule; `look` gives those of a named definition. -/
def Rule.findings (dialect : Dialect) (look : String → Json → List Finding) :
    Rule → Json → List Finding
  | .types allowed, value =>
    if allowed.any fun type => dialect.hasType type value then []
    else [.here (.wrongType value allowed)]
  | .values allowed, value =>
    if allowed.any (Json.equal value) then [] else [.here (.notListed value allowed)]
  | .atLeast bound, value =>
    if numberOrder value bound = some .lt then [.here (.below value bound)] else []
  | .moreThan bound, value =>
    match numberOrder value bound with
    | none | some .gt => []
    | some _ => [.here (.notAbove value bound)]
  | .minItems least, value =>
    match value with
    | .array items => if items.length < least then [.here (.tooFew value least)] else []
    | _ => []
  | .maxItems most, value =>
    match value with
    | .array items => if most < items.length then [.here (.tooMany value most)] else []
    | _ => []
  | .distinct, value =>
    match value with
    | .array items => if hasRepeats items then [.here (.repeated value)] else []
    | _ => []
  | .form format, value =>
    match value with
    | .string s => if dialect.accepts format s then [] else [.here (.badFormat value format)]
    | _ => []
  | .items rules, value =>
    (itemsOf value).flatMap fun (item, index) =>
      (allFindings dialect look rules item).map (·.below (toString index))
  | .required names, value =>
    match value with
    | .object members =>
      (names.filter fun name => !Entries.has name members).map fun name => .here (.missing name)
    | _ => []
  | .dependent name needed, value =>
    match value with
    | .object members =>
      if Entries.has name members then
        (needed.filter fun name => !Entries.has name members).map fun name => .here (.missing name)
      else []
    | _ => []
  | .members fields, value => memberFindings dialect look fields value
  | .everyMember rules, value =>
    (membersOf value).flatMap fun (name, member) =>
      (allFindings dialect look rules member).map (·.below name)
  | .everyName rules, value =>
    (membersOf value).flatMap fun (name, _) => allFindings dialect look rules (.string name)
  | .only fields, value =>
    let found := (membersOf value).flatMap fun (name, member) =>
      (fieldFindings dialect look name fields member).map (·.below name)
    let strange := ((membersOf value).keys).filter fun name =>
      !(fields.any fun field => field.1 = name) && !isExtension name
    if strange = [] then found else found ++ [.here (.unexpected strange)]
  | .choice kind branches, value =>
    match branchesPassed dialect look branches value, kind with
    | 0, _ => [.here (.noBranch kind value)]
    | 1, _ | _, .anyOf => []
    | _, .oneOf => [.here (.manyBranches value)]
  | .see definition, value => look definition value
termination_by structural rule => rule

/-- The violations of several rules, one rule after the other. -/
def allFindings (dialect : Dialect) (look : String → Json → List Finding) :
    List Rule → Json → List Finding
  | [], _ => []
  | rule :: rest, value => rule.findings dialect look value ++ allFindings dialect look rest value

/-- Visits the members that the fields name, in the order of the fields. -/
def memberFindings (dialect : Dialect) (look : String → Json → List Finding) :
    List (String × List Rule) → Json → List Finding
  | [], _ => []
  | (name, rules) :: rest, value =>
    (match value.get? name with
    | some member => (allFindings dialect look rules member).map (·.below name)
    | none => []) ++ memberFindings dialect look rest value

/-- The violations of the field of this name. -/
def fieldFindings (dialect : Dialect) (look : String → Json → List Finding) (wanted : String) :
    List (String × List Rule) → Json → List Finding
  | [], _ => []
  | (name, rules) :: rest, member =>
    if name = wanted then allFindings dialect look rules member
    else fieldFindings dialect look wanted rest member

/-- How many branches a value satisfies. -/
def branchesPassed (dialect : Dialect) (look : String → Json → List Finding) :
    List (List Rule) → Json → Nat
  | [], _ => 0
  | rules :: rest, value =>
    (if (allFindings dialect look rules value).isEmpty then 1 else 0) +
      branchesPassed dialect look rest value

end

abbrev Definitions := List (String × List Rule)

/-- The violations of a named definition, following at most `depth` references. -/
def Definitions.findings (definitions : Definitions) (dialect : Dialect) :
    Nat → String → Json → List Finding
  | 0, _, _ => []
  | depth + 1, name, value =>
    allFindings dialect (definitions.findings dialect depth)
      ((Entries.get? name definitions).getD []) value

mutual

/-- How many values are nested in one another. -/
def nesting : Json → Nat
  | .array items => nestingOfItems items + 1
  | .object members => nestingOfMembers members + 1
  | _ => 1
termination_by structural value => value

def nestingOfItems : List Json → Nat
  | [] => 0
  | item :: rest => max (nesting item) (nestingOfItems rest)

def nestingOfMembers : List (String × Json) → Nat
  | [] => 0
  | (_, value) :: rest => max (nesting value) (nestingOfMembers rest)

end

/-- All violations. Each level of a value meets at most four references. -/
def Definitions.check (definitions : Definitions) (dialect : Dialect) (root : String)
    (value : Json) : List Finding :=
  definitions.findings dialect (4 * nesting value + 4) root value

end RouteDoc.Schema
