import RouteDoc.Document.Conversion
import RouteDoc.Proofs.Document.Clean
import RouteDoc.Proofs.Schema.Conformance
import RouteDoc.Proofs.Schema.Keys

namespace RouteDoc

open Schema (Uses)
open Schema.Vocabulary (portable folded openApi)

namespace Conversion

open Check

variable {schema : Json}

theorem versionIssues_trial : versionIssues (trial schema) = [] := by
  simp [versionIssues, trial, Json.get?, Entries.get?, Json.asString?]

theorem infoIssues_trial : infoIssues (trial schema) = [] := by
  simp [infoIssues, trial, Json.get?, Entries.get?, Json.isString]

theorem componentsIssues_trial : componentsIssues (trial schema) = [] := by
  have hcomponents : (trial schema).get? "components" = some (.object []) := rfl
  have hproblem : Components.problem? [] = none := by decide +kernel
  simp [componentsIssues, hcomponents, hproblem, keyIssues]

/-- The schema stands in the only slot of its trial document. -/
theorem schemaSlots_trial : ∃ location, schemaSlots (trial schema) = [(location, schema)] :=
  ⟨_, rfl⟩

theorem schemaIssues_trial (h : Schema.SchemaObject.check schema = []) :
    schemaIssues (trial schema) = [] := by
  obtain ⟨location, hslots⟩ := @schemaSlots_trial schema
  simp [schemaIssues, hslots, slotIssues_of_check h]

theorem referenceIssues_trial (h : mentions "$ref" schema = false) :
    referenceIssues (trial schema) = [] := by
  have htrial : mentions "$ref" (trial schema) = false := by
    simp [trial, mentions, mentionsInMembers, h]
  simp [referenceIssues, references, referencesAt_of_not_mentions _ _ htrial]

/-- The operation of a trial document. -/
def operation (schema : Json) : Json :=
  .object [("responses", .object [("200", .object [("description", .string "Converted schema"),
    ("content", .object [("application/json", .object [("schema", schema)])])])])]

theorem operationsIssues_trial : operationsIssues (trial schema) = [] := by
  have hpaths : (trial schema).entriesAt "paths" =
      [("/get/some/", .object [("get", operation schema)])] := rfl
  have hnames : templateParameters "/get/some/" = [] := by decide +kernel
  rw [operationsIssues, hpaths]
  simp only [List.flatMap_cons, List.flatMap_nil, hnames]
  rfl

/-- The trial document shows nothing but what is wrong with the schema. -/
theorem structural_trial (hc : Schema.SchemaObject.check schema = [])
    (hr : mentions "$ref" schema = false) : structural (trial schema) = [] := by
  change versionIssues (trial schema) ++ infoIssues (trial schema) ++
    serversIssues (trial schema) ++ componentsIssues (trial schema) ++
    schemaIssues (trial schema) ++ referenceIssues (trial schema) ++
    operationsIssues (trial schema) = []
  rw [versionIssues_trial, infoIssues_trial, componentsIssues_trial, schemaIssues_trial hc,
    referenceIssues_trial hr, operationsIssues_trial]
  rfl

end Conversion

/-- A portable schema without references that compiles is converted to its folded and lowered
form. -/
theorem convert_of_portable {compiler : Compiler} {schema : Json} (hu : Uses portable schema)
    (hr : Check.mentions "$ref" schema = false) (hc : compiler schema = .ok ()) :
    convert compiler (some Check.structural) schema =
      .ok (Schema.downgrade (Schema.foldPatterns schema)) := by
  have huses : Uses openApi (Conversion.toDialect schema) :=
    Schema.uses_downgrade (Schema.uses_foldPatterns hu)
  have hfolded : Check.mentions "$ref" (Schema.foldPatterns schema) = false :=
    Schema.mentions_foldPatterns (by decide) (by decide) hr
  have hlowered : Check.mentions "$ref" (Conversion.toDialect schema) = false :=
    Schema.mentions_downgrade (by decide) hfolded
  have hpasses : Conversion.prove Check.structural (Conversion.toDialect schema) = .ok () := by
    rw [Conversion.prove, passes,
      Conversion.structural_trial (Schema.check_of_uses huses) hlowered]
  unfold convert
  rw [hc]
  simp only [hpasses]
  rfl

/-- An amount: several types, null among them, above zero. -/
def amountSchema : Json := .object [
  ("type", .array [.string "number", .string "string", .string "null"]),
  ("exclusiveMinimum", .ofNat 0)]

/-- Amounts by account. The pattern takes the place of the ban on additional properties. -/
def ledgerSchema : Json := .object [
  ("required", .array [.string "total"]),
  ("additionalProperties", .bool false),
  ("patternProperties", .object [("^acc", amountSchema)])]

theorem compiles_ledgerSchema : Compiler.usual ledgerSchema = .ok () := by
  have hok : (Compiler.usual ledgerSchema).isOk = true := by decide +kernel
  cases hc : Compiler.usual ledgerSchema with
  | ok _ => rfl
  | error fault =>
    rw [hc] at hok
    cases hok

theorem uses_ledgerSchema : Uses portable ledgerSchema := by
  refine .of_within (by decide) (by decide) fun schema hm => ?_
  have hwithin : schema ∈ [amountSchema] := hm
  rw [List.mem_singleton.mp hwithin]
  exact .of_within (by decide) (by decide) (List.forall_mem_nil _)

theorem convert_of_portable_ledger : Uses portable ledgerSchema ∧
    Check.mentions "$ref" ledgerSchema = false ∧ Compiler.usual ledgerSchema = .ok () ∧
      convert .usual (some Check.structural) ledgerSchema = .ok (.object [
        ("required", .array [.string "total"]),
        ("additionalProperties", .object [
          ("exclusiveMinimum", .bool true),
          ("anyOf", .array [
            .object [("type", .string "number")], .object [("type", .string "string")]]),
          ("nullable", .bool true), ("minimum", .ofNat 0)]),
        ("x-pattern", .string "^acc")]) := by
  refine ⟨uses_ledgerSchema, by decide, compiles_ledgerSchema, ?_⟩
  exact convert_of_portable uses_ledgerSchema (by decide) compiles_ledgerSchema

end RouteDoc
