import RouteDoc.Proofs.Schema.Vocabulary

namespace RouteDoc.Schema

inductive Version where
  | draft7
  | openApi30
deriving DecidableEq

/-- The value has the type of this name; a fraction literal such as `1.0` is an integer. -/
def isOfType (value : Json) (name : String) : Bool :=
  TypeName.all.any fun type => type.key = name && Dialect.hasType ⟨true, fun _ _ => true⟩ type value

def isTrue : Json → Bool
  | .bool true => true
  | _ => false

namespace Version

/-- A node with `nullable` admits null, whatever else the node says. -/
def admitsNull (version : Version) (members : Entries Json) (value : Json) : Bool :=
  version = openApi30 && (members.get? "nullable").any isTrue && value.isNull

/-- A flag excludes the bound beside it. -/
def excludes (version : Version) (siblings : Entries Json) (flag : String) : Bool :=
  version = openApi30 && (siblings.get? flag).any isTrue

end Version

/-- A number stands in one of these orders to the bound; no other value is bounded. -/
def bounded (allowed : List Ordering) : Json → Json → Bool
  | .number bound, .number n => allowed.contains (n.order bound)
  | _, _ => true

/-- A name has to be there if the value is an object. -/
def provides (value name : Json) : Bool :=
  match value, name with
  | .object members, .string name => Entries.has name members
  | _, _ => true

/-- What a keyword without schemas asks of a value; an unknown keyword asks nothing. -/
def asserts (version : Version) (siblings : Entries Json) (key : String) (keyword value : Json) :
    Bool :=
  match key, keyword with
  | "type", .string name => isOfType value name
  | "type", .array names => names.any fun name => name.asString?.any (isOfType value)
  | "const", constant => Json.equal constant value
  | "enum", .array choices => choices.any fun choice => Json.equal choice value
  | "required", .array names => names.all (provides value)
  | "minimum", bound =>
    bounded (if version.excludes siblings "exclusiveMinimum" then [.gt] else [.gt, .eq]) bound value
  | "maximum", bound =>
    bounded (if version.excludes siblings "exclusiveMaximum" then [.lt] else [.lt, .eq]) bound value
  | "exclusiveMinimum", bound => bounded [.gt] bound value
  | "exclusiveMaximum", bound => bounded [.lt] bound value
  | _, _ => true

/-- The members of a value that no sibling declares by name. -/
def undeclared (siblings : Entries Json) (value : Json) : Entries Json :=
  (membersOf value).filter fun member =>
    !((siblings.get? "properties").bind Json.asObject?).any (Entries.has member.1)

/-- What a keyword asks of a value. It may read what stands under it as a schema, as a list of
schemas or as schemas by name, and `whole`, `branches` and `declared` are the verdicts of these. -/
def asks (version : Version) (siblings : Entries Json) (key : String) (keyword value : Json)
    (whole : Json → Bool) (branches declared : List Bool) : Bool :=
  if key = "properties" then declared.all id
  else if key = "additionalProperties" then
    (undeclared siblings value).all fun member => whole member.2
  else if key = "items" then (value.asArray?.getD []).all whole
  else if key = "anyOf" then branches.any id
  else if key = "allOf" then branches.all id
  else asserts version siblings key keyword value

mutual

/-- A value satisfies a schema. -/
def accepts (version : Version) : Json → Json → Bool
  | .object members, value =>
    version.admitsNull members value || acceptsMembers version members members value
  | .bool verdict, _ => verdict
  | _, _ => false
termination_by structural schema => schema

/-- A value satisfies these members of a schema; `siblings` are all of its members. -/
def acceptsMembers (version : Version) (siblings : Entries Json) :
    List (String × Json) → Json → Bool
  | [], _ => true
  | (key, keyword) :: rest, value =>
    asks version siblings key keyword value (accepts version keyword)
      (branchVerdicts version keyword value) (declaredVerdicts version keyword value) &&
      acceptsMembers version siblings rest value
termination_by structural members => members

/-- The verdicts of the schemas by name, each on the member of its name. -/
def declaredVerdicts (version : Version) : Json → Json → List Bool
  | .object schemas, value => memberVerdicts version schemas value
  | _, _ => []
termination_by structural keyword => keyword

def memberVerdicts (version : Version) : List (String × Json) → Json → List Bool
  | [], _ => []
  | (name, schema) :: rest, value =>
    (value.get? name).all (accepts version schema) :: memberVerdicts version rest value
termination_by structural schemas => schemas

/-- The verdicts of the schemas of a list. -/
def branchVerdicts (version : Version) : Json → Json → List Bool
  | .array schemas, value => verdicts version schemas value
  | _, _ => []
termination_by structural keyword => keyword

def verdicts (version : Version) : List Json → Json → List Bool
  | [], _ => []
  | schema :: rest, value => accepts version schema value :: verdicts version rest value
termination_by structural schemas => schemas

end

/-- What a member of a schema asks of a value. -/
def holds (version : Version) (siblings : Entries Json) (key : String) (keyword value : Json) :
    Bool :=
  asks version siblings key keyword value (accepts version keyword)
    (branchVerdicts version keyword value) (declaredVerdicts version keyword value)

section

variable {version : Version} {members siblings : Entries Json} {key : String}
  {keyword value : Json} {schemas : List Json}

theorem acceptsMembers_iff : acceptsMembers version siblings members value = true ↔
    ∀ entry ∈ members, holds version siblings entry.1 entry.2 value = true := by
  induction members with
  | nil => simp [acceptsMembers]
  | cons member rest ih =>
    obtain ⟨key, keyword⟩ := member
    simp [acceptsMembers, ih, holds]

theorem accepts_object : accepts version (.object members) value = true ↔
    version.admitsNull members value = true ∨
      ∀ entry ∈ members, holds version members entry.1 entry.2 value = true := by
  rw [accepts, Bool.or_eq_true, acceptsMembers_iff]

theorem accepts_of_draft7 (h : accepts .draft7 (.object members) value = true) :
    ∀ entry ∈ members, holds .draft7 members entry.1 entry.2 value = true := by
  refine (accepts_object.mp h).resolve_left fun hnull => ?_
  simp [Version.admitsNull] at hnull

theorem verdicts_eq : verdicts version schemas value =
    schemas.map fun schema => accepts version schema value := by
  induction schemas with
  | nil => rfl
  | cons schema rest ih => rw [verdicts, ih, List.map_cons]

theorem memberVerdicts_eq {schemas : Entries Json} : memberVerdicts version schemas value =
    schemas.map fun entry => (value.get? entry.1).all (accepts version entry.2) := by
  induction schemas with
  | nil => rfl
  | cons entry rest ih =>
    obtain ⟨name, schema⟩ := entry
    rw [memberVerdicts, ih, List.map_cons]

/-- The keywords under which schemas stand. -/
def childKeywords : List String := ["properties", "additionalProperties", "items", "anyOf", "allOf"]

theorem holds_of_plain (h : key ∉ childKeywords) :
    holds version siblings key keyword value = asserts version siblings key keyword value := by
  simp only [childKeywords, List.mem_cons, List.not_mem_nil, or_false, not_or] at h
  simp only [holds, asks, h, ↓reduceIte]

/-- Bounds aside, a keyword without schemas asks the same in both dialects. -/
theorem asserts_congr (other : Version) {others : Entries Json} (hmin : key ≠ "minimum")
    (hmax : key ≠ "maximum") :
    asserts version siblings key keyword value = asserts other others key keyword value := by
  unfold asserts
  split <;> simp_all

end

end RouteDoc.Schema
