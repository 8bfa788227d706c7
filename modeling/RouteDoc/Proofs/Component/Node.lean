import RouteDoc.Component.Shape
import RouteDoc.Proofs.Entries

namespace RouteDoc

theorem Json.sizeOf_get? {key : String} {schema value : Json} (h : schema.get? key = some value) :
    sizeOf value < sizeOf schema := by
  cases schema with
  | object members =>
    have hm := List.sizeOf_lt_of_mem (Entries.mem_of_get? h)
    simp only [Prod.mk.sizeOf_spec, Json.object.sizeOf_spec] at hm ⊢
    omega
  | _ => simp [Json.get?] at h

theorem Json.sizeOf_entriesAt {key : String} {schema : Json} {entry : String × Json}
    (h : entry ∈ schema.entriesAt key) : sizeOf entry.2 < sizeOf schema := by
  unfold Json.entriesAt at h
  cases hg : schema.get? key with
  | none => simp [hg] at h
  | some value =>
    have hv := sizeOf_get? hg
    cases value with
    | object members =>
      simp only [hg, Option.bind_some, Json.asObject?, Option.getD_some] at h
      obtain ⟨name, inner⟩ := entry
      have hm := List.sizeOf_lt_of_mem h
      simp only [Prod.mk.sizeOf_spec, Json.object.sizeOf_spec] at hm hv ⊢
      omega
    | _ => simp [hg, Json.asObject?] at h

namespace Component

open Schema (Kind declaredType)

/-- A type in any case of letters decides; alternatives count only where no type is a string. -/
def nodeKind (schema : Json) : Kind :=
  match schema.get? "type", schema.get? "oneOf" with
  | some (.string type), _ =>
    if Text.lower type = "object" then .object
    else if Text.lower type = "array" then .array (schema.get? "items")
    else .primitive (some (Text.lower type))
  | _, some (.array alternatives) => .oneOf alternatives
  | _, _ => .primitive none

/-- The schemas right below a node with which decomposition goes on. -/
def below (schema : Json) : List Json :=
  match nodeKind schema with
  | .object => (schema.entriesAt "properties").map Prod.snd
  | .array items => items.toList
  | .oneOf alternatives => alternatives
  | .primitive _ => []

/-- How a node comes by its kind. -/
inductive HasKind (schema : Json) : Kind → Prop where
  | object (type : String) : schema.get? "type" = some (.string type) →
      Text.lower type = "object" → HasKind schema .object
  | array (type : String) : schema.get? "type" = some (.string type) →
      Text.lower type = "array" → HasKind schema (.array (schema.get? "items"))
  | typed (type : String) : schema.get? "type" = some (.string type) →
      Text.lower type ≠ "object" → Text.lower type ≠ "array" →
      HasKind schema (.primitive (some (Text.lower type)))
  | oneOf (alternatives : List Json) : (∀ type, schema.get? "type" ≠ some (.string type)) →
      schema.get? "oneOf" = some (.array alternatives) → HasKind schema (.oneOf alternatives)
  | untyped : (∀ type, schema.get? "type" ≠ some (.string type)) →
      (∀ alternatives, schema.get? "oneOf" ≠ some (.array alternatives)) →
      HasKind schema (.primitive none)

theorem hasKind_nodeKind (schema : Json) : HasKind schema (nodeKind schema) := by
  unfold nodeKind
  split
  · rename_i type ht
    split_ifs with ho ha
    · exact .object type ht ho
    · exact .array type ht ha
    · exact .typed type ht ho ha
  · rename_i alternatives ho ht
    exact .oneOf alternatives ht ho
  · rename_i ht ho
    exact .untyped ht ho

theorem HasKind.nodeKind_eq {schema : Json} {found : Kind} (h : HasKind schema found) :
    nodeKind schema = found := by
  cases h with
  | object type ht hl => simp [nodeKind, ht, hl]
  | array type ht hl => simp [nodeKind, ht, hl]
  | typed type ht ho ha => simp [nodeKind, ht, ho, ha]
  | oneOf alternatives ht ho => simp [nodeKind, ho]
  | untyped ht ho => simp [nodeKind]

theorem declaredType_eq_some {schema : Json} {type : String} :
    declaredType schema = some type ↔
      ∃ text, schema.get? "type" = some (.string text) ∧ Text.lower text = type := by
  rw [declaredType, Option.map_eq_some_iff]
  refine exists_congr fun text => and_congr_left fun _ => ?_
  rw [Option.bind_eq_some_iff]
  constructor
  · rintro ⟨value, hg, hs⟩
    cases value with
    | string found => cases hs; exact hg
    | _ => cases hs
  · exact fun hg => ⟨.string text, hg, rfl⟩

theorem declaredType_eq_none {schema : Json} :
    declaredType schema = none ↔ ∀ type, schema.get? "type" ≠ some (.string type) := by
  simp [Option.eq_none_iff_forall_not_mem, declaredType_eq_some]

theorem nodeKind_eq_object {schema : Json} : nodeKind schema = .object ↔
    ∃ type, schema.get? "type" = some (.string type) ∧ Text.lower type = "object" := by
  constructor
  · intro h
    cases h ▸ hasKind_nodeKind schema with
    | object type ht hl => exact ⟨type, ht, hl⟩
  · rintro ⟨type, ht, hl⟩
    exact (HasKind.object type ht hl).nodeKind_eq

theorem nodeKind_eq_array {schema : Json} {items : Option Json} : nodeKind schema = .array items ↔
    (∃ type, schema.get? "type" = some (.string type) ∧ Text.lower type = "array") ∧
      schema.get? "items" = items := by
  constructor
  · intro h
    cases h ▸ hasKind_nodeKind schema with
    | array type ht hl => exact ⟨⟨type, ht, hl⟩, rfl⟩
  · rintro ⟨⟨type, ht, hl⟩, rfl⟩
    exact (HasKind.array type ht hl).nodeKind_eq

theorem nodeKind_eq_oneOf {schema : Json} {alternatives : List Json} :
    nodeKind schema = .oneOf alternatives ↔
      (∀ type, schema.get? "type" ≠ some (.string type)) ∧
        schema.get? "oneOf" = some (.array alternatives) := by
  constructor
  · intro h
    cases h ▸ hasKind_nodeKind schema with
    | oneOf alternatives ht ho => exact ⟨ht, ho⟩
  · rintro ⟨ht, ho⟩
    exact (HasKind.oneOf alternatives ht ho).nodeKind_eq

theorem asArray_of_no_list {found : Option Json} (h : ∀ items, found ≠ some (.array items)) :
    found.bind Json.asArray? = none := by
  cases found with
  | none => rfl
  | some value =>
    cases value with
    | array items => exact absurd rfl (h items)
    | _ => rfl

/-- This is the classification of schemas by itself, apart from decomposition. -/
theorem kind_eq_nodeKind (schema : Json) : Schema.kind schema = nodeKind schema := by
  have h := hasKind_nodeKind schema
  unfold Schema.kind
  generalize nodeKind schema = found at h ⊢
  cases h with
  | object type ht hl => simp [declaredType_eq_some.mpr ⟨type, ht, hl⟩, Kind.ofType]
  | array type ht hl => simp [declaredType_eq_some.mpr ⟨type, ht, hl⟩, Kind.ofType]
  | typed type ht ho ha => simp [declaredType_eq_some.mpr ⟨type, ht, rfl⟩, Kind.ofType, ho, ha]
  | oneOf alternatives ht ho => simp [declaredType_eq_none.mpr ht, ho, Json.asArray?]
  | untyped ht ho => simp [declaredType_eq_none.mpr ht, asArray_of_no_list ho]

/-- A leaf keeps the declared type. -/
theorem type_of_kind {schema : Json} {type : Option String} (h : nodeKind schema = .primitive type) :
    type = declaredType schema := by
  cases h ▸ hasKind_nodeKind schema with
  | typed type ht => exact (declaredType_eq_some.mpr ⟨type, ht, rfl⟩).symm
  | untyped ht => exact (declaredType_eq_none.mpr ht).symm

/-- Objects and lists are no leaves. -/
theorem type_ne_of_kind {schema : Json} {type : Option String}
    (h : nodeKind schema = .primitive type) : ∀ key ∈ type, key ≠ "object" ∧ key ≠ "array" := by
  intro key hkey
  cases h ▸ hasKind_nodeKind schema with
  | typed type _ ho ha =>
    cases hkey
    exact ⟨ho, ha⟩
  | untyped => cases hkey

theorem mem_below_of_property {schema : Json} {entry : String × Json}
    (hk : nodeKind schema = .object) (hm : entry ∈ schema.entriesAt "properties") :
    entry.2 ∈ below schema := by
  rw [below, hk]
  exact List.mem_map_of_mem hm

theorem mem_below_of_items {schema items : Json} (hk : nodeKind schema = .array (some items)) :
    items ∈ below schema := by
  rw [below, hk]
  exact List.mem_singleton.mpr rfl

theorem mem_below_of_alternative {schema : Json} {alternatives : List Json} {entry : Json × Nat}
    (hk : nodeKind schema = .oneOf alternatives) (hm : entry ∈ alternatives.zipIdx) :
    entry.1 ∈ below schema := by
  rw [below, hk]
  exact List.fst_mem_of_mem_zipIdx hm

theorem sizeOf_below {schema inner : Json} (h : inner ∈ below schema) :
    sizeOf inner < sizeOf schema := by
  unfold below at h
  cases hk : nodeKind schema with
  | object =>
    simp only [hk] at h
    obtain ⟨entry, hm, rfl⟩ := List.mem_map.mp h
    exact Json.sizeOf_entriesAt hm
  | array items =>
    simp only [hk, Option.mem_toList] at h
    subst h
    exact Json.sizeOf_get? (nodeKind_eq_array.mp hk).2
  | oneOf alternatives =>
    simp only [hk] at h
    have hs := Json.sizeOf_get? (nodeKind_eq_oneOf.mp hk).2
    have hm := List.sizeOf_lt_of_mem h
    simp only [Json.array.sizeOf_spec] at hs
    omega
  | primitive type => simp [hk] at h

/-- What holds of a node when it holds of all nodes right below holds of every schema. -/
theorem node_induction {P : Json → Prop}
    (step : ∀ schema, (∀ inner ∈ below schema, P inner) → P schema) (schema : Json) : P schema :=
  step schema fun inner _ => node_induction step inner
termination_by sizeOf schema
decreasing_by exact sizeOf_below ‹_›

namespace Shape

theorem ofEach_eq (entries : List (String × Json)) :
    ofEach entries = entries.map fun (name, schema) => (name, ofSchema schema) := by
  induction entries with
  | nil => rfl
  | cons entry rest ih => simp [ofEach, ih]

theorem ofAll_eq (schemas : List Json) : ofAll schemas = schemas.map ofSchema := by
  induction schemas with
  | nil => rfl
  | cons schema rest ih => simp [ofAll, ih]

theorem propertiesIn_eq (members : List (String × Json)) :
    propertiesIn members = ((Json.object members).entriesAt "properties").map
      fun (name, schema) => (name, ofSchema schema) := by
  induction members with
  | nil => rfl
  | cons member rest ih =>
    obtain ⟨key, value⟩ := member
    by_cases h : key = "properties"
    · cases value <;>
        simp [propertiesIn, ofMember, ofEach_eq, Json.entriesAt, Json.get?, Entries.get?,
          Json.asObject?, h]
    · simpa [propertiesIn, Json.entriesAt, Json.get?, Entries.get?, h] using ih

theorem propertiesOf_eq (schema : Json) :
    propertiesOf schema = (schema.entriesAt "properties").map
      fun (name, schema) => (name, ofSchema schema) := by
  cases schema with
  | object members => exact propertiesIn_eq members
  | _ => rfl

theorem itemsIn_eq (members : List (String × Json)) :
    itemsIn members = ((Json.object members).get? "items").map ofSchema := by
  induction members with
  | nil => rfl
  | cons member rest ih =>
    obtain ⟨key, value⟩ := member
    by_cases h : key = "items"
    · simp [itemsIn, Json.get?, Entries.get?, h]
    · simpa [itemsIn, Json.get?, Entries.get?, h] using ih

theorem alternativesIn_eq (members : List (String × Json)) :
    alternativesIn members =
      (((Json.object members).get? "oneOf").bind Json.asArray?).map (List.map ofSchema) := by
  induction members with
  | nil => rfl
  | cons member rest ih =>
    obtain ⟨key, value⟩ := member
    by_cases h : key = "oneOf"
    · cases value <;>
        simp [alternativesIn, ofList, ofAll_eq, Json.get?, Entries.get?, Json.asArray?, h]
    · simpa [alternativesIn, Json.get?, Entries.get?, h] using ih

/-- The shape of a schema by its kind. -/
theorem ofSchema_eq (schema : Json) : ofSchema schema =
    match nodeKind schema with
    | .object => .object (requiredOf schema)
        ((schema.entriesAt "properties").map fun (name, schema) => (name, ofSchema schema))
    | .array items => .array (items.map ofSchema)
    | .oneOf alternatives => .oneOf (alternatives.map ofSchema)
    | .primitive type => .primitive type (titleOf schema) := by
  cases schema with
  | object members =>
    have h := hasKind_nodeKind (.object members)
    rw [ofSchema, propertiesIn_eq, itemsIn_eq, alternativesIn_eq]
    generalize nodeKind (.object members) = found at h ⊢
    cases h with
    | object type ht hl => simp [declaredType_eq_some.mpr ⟨type, ht, hl⟩]
    | array type ht hl => simp [declaredType_eq_some.mpr ⟨type, ht, hl⟩]
    | typed type ht ho ha => simp [declaredType_eq_some.mpr ⟨type, ht, rfl⟩, ho, ha]
    | oneOf alternatives ht ho => simp [declaredType_eq_none.mpr ht, ho, Json.asArray?]
    | untyped ht ho => simp [declaredType_eq_none.mpr ht, asArray_of_no_list ho]
  | _ => rfl

end Shape
end Component
end RouteDoc
