import RouteDoc.Proofs.Document.Building
import RouteDoc.Proofs.Entries
import RouteDoc.Proofs.Operation.Written

namespace RouteDoc

open Operation (Method Parameter Bucket)

namespace Operation

theorem isRequired_iff {schema : Json} {name : String} : isRequired schema name ↔
    ∃ listed, schema.get? "required" = some (.array listed) ∧ .string name ∈ listed := by
  rw [isRequired, List.any_eq_true]
  constructor
  · rintro ⟨entry, hm, he⟩
    cases hr : schema.get? "required" with
    | none => simp [hr] at hm
    | some value =>
      cases value with
      | array listed =>
        cases entry with
        | string text =>
          have htext : text = name := by simpa [Json.asString?] using he
          subst htext
          exact ⟨listed, rfl, by simpa [hr, Json.asArray?] using hm⟩
        | _ => simp [Json.asString?] at he
      | _ => simp [hr, Json.asArray?] at hm
  · rintro ⟨listed, hr, hm⟩
    exact ⟨.string name, by simpa [hr, Json.asArray?] using hm, by simp [Json.asString?]⟩

namespace Method

/-- The bucket of the path parameters, null where there is none. -/
def pathBucket (method : Method) : Json := (method.bucket? Bucket.params.key).getD .null

/-- The properties of the bucket that are no objects, in their order. -/
def pathProperties (method : Method) : Entries Json :=
  (method.pathBucket.entriesAt "properties").filter fun (_, property) =>
    Schema.declaredType property ≠ some "object"

/-- The name stands in the bucket's own required list. -/
def ListsRequired (method : Method) (name : String) : Prop :=
  ∃ listed, method.pathBucket.get? "required" = some (.array listed) ∧ .string name ∈ listed

instance (method : Method) (name : String) : Decidable (method.ListsRequired name) :=
  decidable_of_iff (isRequired method.pathBucket name = true) isRequired_iff

/-- One finding for each property that is not required, at its place among the properties, and one
for each time the path has a name that is none of them. -/
def pathFindings (method : Method) (location path : String) : List Check.Issue :=
  (method.pathProperties.zipIdx.filterMap fun ((name, _), index) =>
    if method.ListsRequired name then none else some (Check.unflagged location index name)) ++
  ((Check.templateParameters path).filter fun name => name ∉ method.pathProperties.keys).map
    (Check.undeclared location)

theorem pathFindings_eq_nil_iff (method : Method) (location path : String) :
    method.pathFindings location path = [] ↔
      (∀ name ∈ method.pathProperties.keys, method.ListsRequired name) ∧
      ∀ name ∈ Check.templateParameters path, name ∈ method.pathProperties.keys := by
  rw [pathFindings, List.append_eq_nil_iff, List.filterMap_eq_nil_iff, List.map_eq_nil_iff,
    List.filter_eq_nil_iff]
  apply and_congr
  · constructor
    · intro h name hm
      obtain ⟨⟨name, property⟩, hp, rfl⟩ := List.mem_map.mp hm
      obtain ⟨index, hi⟩ := List.mem_iff_getElem?.mp hp
      have hnone := h _ (List.mk_mem_zipIdx_iff_getElem?.mpr hi)
      simpa using hnone
    · rintro h ⟨⟨name, property⟩, index⟩ hm
      apply if_pos
      exact h name (Entries.mem_keys_of_mem (List.fst_mem_of_mem_zipIdx hm))
  · simp

/-- The parameters of the path bucket stand before the others, and only they are in the path. -/
theorem parameters_eq (method : Method) : ∃ others : List Parameter,
    method.parameters = (method.pathProperties.map fun entry =>
      Bucket.params.parameter method.pathBucket entry.1 entry.2) ++ others ∧
    ∀ parameter ∈ others, parameter.location ≠ .path := by
  refine ⟨[Bucket.query, .cookies, .header].flatMap fun bucket =>
    ((method.bucket? bucket.key).map bucket.parameters).getD [], ?_, ?_⟩
  · rw [parameters, Bucket.all, List.flatMap_cons]
    congr 1
    rw [pathProperties, pathBucket]
    cases method.bucket? Bucket.params.key <;> rfl
  · intro parameter hm
    obtain ⟨bucket, hb, hm⟩ := List.mem_flatMap.mp hm
    cases hs : method.bucket? bucket.key with
    | none => simp [hs] at hm
    | some schema =>
      rw [hs] at hm
      obtain ⟨⟨name, property⟩, _, rfl⟩ := List.mem_map.mp hm
      cases bucket with
      | params => simp at hb
      | _ => exact Location.noConfusion

/-- A parameter of the path bucket is found if the bucket does not require it. -/
theorem finding?_parameter (method : Method) (location name : String) (property : Json)
    (index : Nat) :
    (Bucket.params.parameter method.pathBucket name property).finding? location index =
      if method.ListsRequired name then none else some (Check.unflagged location index name) := by
  have hlocation : (Bucket.params.parameter method.pathBucket name property).location = .path := rfl
  by_cases hr : method.ListsRequired name
  · have hflag : (Bucket.params.parameter method.pathBucket name property).required = some true :=
      if_pos (isRequired_iff.mpr hr)
    simp [Parameter.finding?, hflag, hr]
  · have hflag : (Bucket.params.parameter method.pathBucket name property).required = none :=
      if_neg fun h => hr (isRequired_iff.mp h)
    have hname : (Bucket.params.parameter method.pathBucket name property).name = name := rfl
    simp [Parameter.finding?, hlocation, hflag, hname, hr]

end Method

end Operation

namespace Document

open Operation (pathParameterIssues_eq)

theorem pathNames_builtOperation (path name : String) (method : Method) :
    (builtOperation path name method).pathNames = method.pathProperties.keys := by
  obtain ⟨others, hsplit, hothers⟩ := method.parameters_eq
  have hnone : others.filterMap Parameter.pathName? = [] := by
    apply List.filterMap_eq_nil_iff.mpr
    intro parameter hm
    exact if_neg (hothers parameter hm)
  change method.parameters.filterMap Parameter.pathName? = method.pathProperties.map Prod.fst
  rw [hsplit, List.filterMap_append, hnone, List.append_nil, List.filterMap_map,
    ← List.filterMap_eq_map]
  rfl

/-- The check of path parameters finds in an operation what its bucket and its path say. -/
theorem pathParameterIssues_builtOperation (path name location : String) (method : Method) :
    Check.pathParameterIssues location (Check.templateParameters path)
      (builtOperation path name method).toJson = method.pathFindings location path := by
  obtain ⟨others, hsplit, hothers⟩ := method.parameters_eq
  have hnone : (others.zipIdx method.pathProperties.length).filterMap
      (fun entry => entry.1.finding? location entry.2) = [] := by
    apply List.filterMap_eq_nil_iff.mpr
    rintro ⟨parameter, index⟩ hm
    apply if_neg
    rintro ⟨hl, _⟩
    exact hothers parameter (List.fst_mem_of_mem_zipIdx hm) hl
  have hfound : method.parameters.zipIdx.filterMap
      (fun entry => entry.1.finding? location entry.2) =
      method.pathProperties.zipIdx.filterMap fun ((name, _), index) =>
        if method.ListsRequired name then none
        else some (Check.unflagged location index name) := by
    rw [hsplit, List.zipIdx_append, List.filterMap_append, List.length_map, Nat.zero_add, hnone,
      List.append_nil, List.zipIdx_map, List.filterMap_map]
    congr 1
    funext ⟨⟨name, property⟩, index⟩
    exact Method.finding?_parameter method location name property index
  rw [pathParameterIssues_eq, pathNames_builtOperation, Method.pathFindings, ← hfound]
  rfl

end Document

end RouteDoc
