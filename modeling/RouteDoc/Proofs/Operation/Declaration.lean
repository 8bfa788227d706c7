import RouteDoc.Proofs.Component.Addition
import RouteDoc.Proofs.Json.Distinct
import RouteDoc.Proofs.Operation.PathParameters

namespace RouteDoc

open Operation (Method Parameter Bucket)

namespace Schema

open Component (nodeKind hasKind_nodeKind declaredType_eq_some declaredType_eq_none)

def Kind.isObject : Kind → Bool
  | object => true
  | _ => false

/-- A schema is an object by its lower-case type only. -/
theorem isObject_nodeKind (schema : Json) :
    (nodeKind schema).isObject = decide (declaredType schema = some "object") := by
  have h := hasKind_nodeKind schema
  generalize nodeKind schema = found at h ⊢
  cases h with
  | object type ht hl => simp [Kind.isObject, declaredType_eq_some.mpr ⟨type, ht, hl⟩]
  | array type ht hl => simp [Kind.isObject, declaredType_eq_some.mpr ⟨type, ht, hl⟩]
  | typed type ht ho => simp [Kind.isObject, declaredType_eq_some.mpr ⟨type, ht, rfl⟩, ho]
  | oneOf _ ht => simp [Kind.isObject, declaredType_eq_none.mpr ht]
  | untyped ht => simp [Kind.isObject, declaredType_eq_none.mpr ht]

end Schema

namespace Operation

open Component (nodeKind)

/-- A property of a bucket that is no object, with the schema of its bucket. -/
structure Declaration where
  bucket : Bucket
  schema : Json
  name : String
  property : Json

namespace Declaration

/-- The name stands in the required list of its own bucket. -/
def Required (declaration : Declaration) : Prop :=
  ∃ listed, declaration.schema.get? "required" = some (.array listed) ∧
    .string declaration.name ∈ listed

instance (declaration : Declaration) : Decidable declaration.Required :=
  decidable_of_iff (isRequired declaration.schema declaration.name = true) isRequired_iff

/-- The parameter has the location and the name that are declared, and is flagged if required. -/
structure Gives (declaration : Declaration) (parameter : Parameter) : Prop where
  location : parameter.location = declaration.bucket.location
  name : parameter.name = declaration.name
  flag : parameter.required = if declaration.Required then some true else none

def parameter (declaration : Declaration) : Parameter :=
  declaration.bucket.parameter declaration.schema declaration.name declaration.property

theorem gives_parameter (declaration : Declaration) : declaration.Gives declaration.parameter where
  location := rfl
  name := rfl
  flag := if_congr isRequired_iff rfl rfl

end Declaration

/-- What a bucket declares, in the order of its properties. -/
def Bucket.declarations (bucket : Bucket) (schema : Json) : List Declaration :=
  ((schema.entriesAt "properties").filter fun (_, property) => !(nodeKind property).isObject).map
    fun (name, property) => ⟨bucket, schema, name, property⟩

/-- What a method declares in a bucket, nothing if it does not have the bucket. -/
def Method.declared (method : Method) (bucket : Bucket) : List Declaration :=
  (method.bucket? bucket.key).toList.flatMap bucket.declarations

/-- What a method declares, bucket by bucket. -/
def Method.declarations (method : Method) : List Declaration :=
  [Bucket.params, .query, .cookies, .header].flatMap method.declared

theorem Bucket.parameters_eq (bucket : Bucket) (schema : Json) :
    bucket.parameters schema = (bucket.declarations schema).map Declaration.parameter := by
  have hsame : (fun entry : String × Json => !(nodeKind entry.2).isObject) =
      fun entry => decide (Schema.declaredType entry.2 ≠ some "object") := by
    funext entry
    rw [Schema.isObject_nodeKind, decide_not]
  rw [declarations, List.map_map, parameters, hsame]
  rfl

section Method

variable {method : Method} {bucket : Bucket}

/-- Each declaration gives one parameter, in the same order. -/
theorem Method.parameters_eq_map (method : Method) :
    method.parameters = method.declarations.map Declaration.parameter := by
  rw [parameters, declarations, List.map_flatMap]
  refine List.flatMap_congr fun bucket _ => ?_
  rw [declared]
  cases method.bucket? bucket.key with
  | none => rfl
  | some schema => simpa using bucket.parameters_eq schema

theorem Method.bucket_of_mem_declared {declaration : Declaration}
    (h : declaration ∈ method.declared bucket) : declaration.bucket = bucket := by
  obtain ⟨schema, _, h⟩ := List.mem_flatMap.mp h
  obtain ⟨_, _, rfl⟩ := List.mem_map.mp h
  rfl

/-- No name is declared twice in a bucket. -/
theorem Method.nodup_declared (hd : method.schema.distinct = true) (bucket : Bucket) :
    ((method.declared bucket).map Declaration.name).Nodup := by
  unfold declared
  cases hb : method.bucket? bucket.key with
  | none => exact List.nodup_nil
  | some schema =>
    obtain ⟨properties, hp, hs⟩ := Option.bind_eq_some_iff.mp hb
    have hschema : schema.distinct = true :=
      Json.distinct_of_get? (Json.distinct_of_get? hd hp) hs
    have hnames : ([schema].flatMap bucket.declarations).map Declaration.name =
        ((schema.entriesAt "properties").filter fun entry =>
          !(nodeKind entry.2).isObject).map Prod.fst := by
      rw [List.flatMap_singleton, Bucket.declarations, List.map_map]
      rfl
    rw [Option.toList_some, hnames]
    exact (Json.nodup_entriesAt hschema "properties").sublist (List.filter_sublist.map Prod.fst)

/-- The location and the name of a declaration. -/
def Declaration.key (declaration : Declaration) : String × String :=
  (declaration.bucket.location.key, declaration.name)

theorem Method.nodup_keys_declarations (hd : method.schema.distinct = true) :
    (method.declarations.map Declaration.key).Nodup := by
  rw [declarations, List.map_flatMap, List.nodup_flatMap]
  constructor
  · intro bucket _
    have hkeys : (method.declared bucket).map Declaration.key =
        ((method.declared bucket).map Declaration.name).map (Prod.mk bucket.location.key) := by
      rw [List.map_map]
      refine List.map_congr_left fun declaration hm => ?_
      rw [Declaration.key, bucket_of_mem_declared hm]
      rfl
    rw [hkeys]
    exact (nodup_declared hd bucket).map fun _ _ h => (Prod.mk.inj h).2
  · have hplaces : [Bucket.params, .query, .cookies, .header].Pairwise
        fun first second => first.location.key ≠ second.location.key := by decide
    have hplace : ∀ bucket, ∀ key ∈ (method.declared bucket).map Declaration.key,
        key.1 = bucket.location.key := by
      intro bucket key hm
      obtain ⟨declaration, hdeclared, rfl⟩ := List.mem_map.mp hm
      rw [Declaration.key, bucket_of_mem_declared hdeclared]
    refine hplaces.imp fun {first second} hne => ?_
    exact List.disjoint_left.mpr fun key hf hs =>
      hne ((hplace first key hf).symm.trans (hplace second key hs))

theorem Bucket.location_injective : Function.Injective Bucket.location := by
  intro first second h
  cases first <;> cases second <;> first | rfl | cases h

/-- The parameters at the location of a bucket are those that are declared in the bucket. -/
theorem Method.parameters_at (method : Method) (bucket : Bucket) :
    method.parameters.filter (fun parameter => parameter.location = bucket.location) =
      (method.declared bucket).map Declaration.parameter := by
  have hparts : ∀ other, (method.declared other).filter
      (fun declaration => declaration.bucket.location = bucket.location) =
        if other = bucket then method.declared bucket else [] := by
    intro other
    split
    · rename_i he
      subst he
      exact List.filter_eq_self.mpr fun declaration hm =>
        decide_eq_true (congrArg Bucket.location (bucket_of_mem_declared hm))
    · rename_i hne
      refine List.filter_eq_nil_iff.mpr fun declaration hm he => hne ?_
      rw [← bucket_of_mem_declared hm]
      exact Bucket.location_injective (of_decide_eq_true he)
  have hdeclared : method.declarations.filter
      (fun declaration => declaration.bucket.location = bucket.location) =
        method.declared bucket := by
    rw [declarations, List.filter_flatMap]
    simp only [hparts]
    cases bucket <;> simp
  rw [parameters_eq_map, List.filter_map, ← hdeclared]
  rfl

end Method

end Operation

namespace Document

open Component (Registry)
open Operation (Declaration)

/-- The parameters of an operation stand one to one for the properties of the buckets that are no
objects, bucket by bucket. No two of them have the same name at the same location, and each is
flagged exactly if the required list of its own bucket has its name. Nothing else in the request
schema has a part in the parameters of a bucket. -/
theorem parameters_of_registered {path name : String} {method : Method} {registry after : Registry}
    {operation : Operation} (hd : method.schema.distinct = true)
    (hrun : (registerOperation path name method).run.run registry = (.ok operation, after)) :
    List.Forall₂ Declaration.Gives method.declarations operation.parameters ∧
    (operation.parameters.map fun parameter => (parameter.location.key, parameter.name)).Nodup ∧
    ∀ (bucket : Bucket) (other : Method), other.bucket? bucket.key = method.bucket? bucket.key →
      other.parameters.filter (fun parameter => parameter.location = bucket.location) =
        operation.parameters.filter fun parameter => parameter.location = bucket.location := by
  have hbuilt : operation.parameters = method.parameters := by
    rw [registerOperation_eq, run_bind] at hrun
    split at hrun
    · cases hrun
      rfl
    · cases hrun
  rw [hbuilt]
  refine ⟨?_, ?_, ?_⟩
  · rw [method.parameters_eq_map, List.forall₂_map_right_iff]
    exact List.forall₂_same.mpr fun declaration _ => declaration.gives_parameter
  · rw [method.parameters_eq_map, List.map_map]
    exact Method.nodup_keys_declarations hd
  · intro bucket other hb
    rw [other.parameters_at, method.parameters_at, Method.declared, Method.declared, hb]

/-- Two buckets share a name that each of them, and the whole schema, treats in its own way. A third
one is no object, and a fourth has no object of properties. -/
def searchSchema : Json := .object [
  ("properties", .object [
    ("header", .object [("properties", .array [.string "id"]),
      ("required", .array [.string "id"])]),
    ("query", .object [
      ("properties", .object [("id", .object []), ("filter", .object [("type", .string "OBJECT")]),
        ("page", .object [("type", .string "integer")])]),
      ("required", .array [.bool true, .string "filter", .string "id"])]),
    ("cookies", .string "id"),
    ("params", .object [("properties", .object [("id", .object [("type", .string "string")])]),
      ("required", .array [.string "page"])])]),
  ("required", .array [.string "id", .string "page"])]

theorem parameters_of_registered_search : ∃ operation after,
    (registerOperation "/search/\x7bid\x7d" "GET" { schema := searchSchema }).run.run {} =
      (.ok operation, after) ∧
    (operation.parameters.map fun parameter =>
      (parameter.location.key, parameter.name, parameter.required)) =
        [("path", "id", none), ("query", "id", some true), ("query", "page", none)] ∧
    List.Forall₂ Declaration.Gives (Method.declarations { schema := searchSchema })
      operation.parameters ∧
    (operation.parameters.map fun parameter => (parameter.location.key, parameter.name)).Nodup := by
  obtain ⟨operation, after, hrun, hlisted⟩ : ∃ operation after,
      (registerOperation "/search/\x7bid\x7d" "GET" { schema := searchSchema }).run.run {} =
        (.ok operation, after) ∧
      (operation.parameters.map fun parameter =>
        (parameter.location.key, parameter.name, parameter.required)) =
          [("path", "id", none), ("query", "id", some true), ("query", "page", none)] :=
    ⟨_, _, rfl, by decide +kernel⟩
  obtain ⟨hgives, hnodup, _⟩ := parameters_of_registered (by decide) hrun
  exact ⟨operation, after, hrun, hlisted, hgives, hnodup⟩

end Document

end RouteDoc
