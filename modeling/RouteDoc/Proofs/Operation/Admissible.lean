import RouteDoc.Proofs.Check.Slots
import RouteDoc.Proofs.Check.Walk
import RouteDoc.Proofs.Component.Publishable
import RouteDoc.Proofs.Operation.PathParameters

namespace RouteDoc

open Check (isComponentKey operationKeys mentions)
open Component (HasPlainType Publishable)
open Schema (declaredType)

namespace Operation

namespace Method

/-- A property of a bucket, with the schema of the bucket, that becomes a parameter. -/
def Declares (method : Method) (bucket : Bucket) (schema : Json) (name : String)
    (property : Json) : Prop :=
  method.bucket? bucket.key = some schema ∧ (name, property) ∈ schema.entriesAt "properties" ∧
    declaredType property ≠ some "object"

/-- What is asked of a method under a path. -/
structure Admissible (path : String) (method : Method) : Prop where
  body : ∀ body ∈ method.bucket? Document.bodyKey, Publishable body
  nonempty : ∀ responses ∈ method.responses?, responses ≠ []
  responses : ∀ responses ∈ method.responses?, ∀ entry ∈ responses,
    isComponentKey entry.1 ∧ ∀ schema ∈ entry.2.schema, Publishable schema
  types : ∀ bucket schema name property, method.Declares bucket schema name property →
    HasPlainType property
  examples : ∀ bucket schema name property, method.Declares bucket schema name property →
    ∀ value ∈ firstExample property, mentions "$ref" value = false
  required : ∀ schema name property, method.Declares .params schema name property →
    isRequired schema name
  named : ∀ name ∈ Check.templateParameters path,
    ∃ schema property, method.Declares .params schema name property

theorem mem_parameters {method : Method} {parameter : Parameter} :
    parameter ∈ method.parameters ↔ ∃ bucket schema name property,
      method.Declares bucket schema name property ∧
        parameter = bucket.parameter schema name property := by
  simp only [parameters, List.mem_flatMap, Declares]
  constructor
  · rintro ⟨bucket, _, hm⟩
    cases hb : method.bucket? bucket.key with
    | none => simp [hb] at hm
    | some schema =>
      rw [hb, Option.map_some, Option.getD_some, Bucket.parameters] at hm
      obtain ⟨⟨name, property⟩, hp, rfl⟩ := List.mem_map.mp hm
      obtain ⟨he, ht⟩ := List.mem_filter.mp hp
      exact ⟨bucket, schema, name, property, ⟨hb, he, of_decide_eq_true ht⟩, rfl⟩
  · rintro ⟨bucket, schema, name, property, ⟨hb, he, ht⟩, rfl⟩
    refine ⟨bucket, by cases bucket <;> decide, ?_⟩
    rw [hb, Option.map_some, Option.getD_some, Bucket.parameters]
    exact List.mem_map.mpr ⟨(name, property), List.mem_filter.mpr ⟨he, decide_eq_true ht⟩, rfl⟩

theorem mem_keys_pathProperties {method : Method} {name : String} :
    name ∈ method.pathProperties.keys ↔
      ∃ schema property, method.Declares .params schema name property := by
  unfold pathProperties pathBucket Declares
  cases hb : method.bucket? Bucket.params.key with
  | none => simp [Entries.keys, Json.entriesAt, Json.get?]
  | some schema => simp [Entries.keys]

end Method

/-- Every method is an HTTP method in any ASCII case, and admissible. -/
def Route.Admissible (route : Route) : Prop :=
  ∀ entry ∈ route.methods, entry.1.toLower ∈ operationKeys ∧ entry.2.Admissible route.path

/-- The check of path parameters finds nothing in an admissible method. -/
theorem Method.Admissible.pathFindings_eq_nil {path : String} {method : Method}
    (h : method.Admissible path) (location : String) : method.pathFindings location path = [] := by
  apply (method.pathFindings_eq_nil_iff location path).mpr
  constructor
  · intro name hn
    obtain ⟨schema, property, hd⟩ := Method.mem_keys_pathProperties.mp hn
    have hbucket : method.pathBucket = schema := by rw [Method.pathBucket, hd.1, Option.getD_some]
    rw [Method.ListsRequired, hbucket]
    exact isRequired_iff.mp (h.required schema name property hd)
  · intro name hn
    exact Method.mem_keys_pathProperties.mpr (h.named name hn)

end Operation

namespace Document

open Operation (Method Parameter)

theorem builtResponses_ne_nil {path home : String} {method : Method}
    (h : method.Admissible path) : builtResponses home method ≠ [] := by
  intro hnone
  exact h.nonempty [] (builtResponses_eq_nil_iff.mp hnone) rfl

/-- The operation of an admissible method has no findings of its own. -/
theorem operationIssues_builtOperation {path name location : String} {method : Method}
    (h : method.Admissible path) : Check.operationIssues location (Check.templateParameters path)
      (builtOperation path name method).toJson = [] := by
  have hresponses : (builtOperation path name method).responses ≠ [] := builtResponses_ne_nil h
  rw [Operation.operationIssues_eq, pathParameterIssues_builtOperation, if_neg hresponses,
    h.pathFindings_eq_nil, List.append_nil]

end Document
end RouteDoc
