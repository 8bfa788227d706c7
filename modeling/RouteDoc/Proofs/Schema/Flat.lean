import RouteDoc.Component.Decomposition
import RouteDoc.Operation.Written
import RouteDoc.Proofs.Schema.Grammar

namespace RouteDoc.Schema.SchemaObject

open Component (referenceTo arrayOf leaf objectOf)

/-- The forms of what stands for a schema within a component. -/
inductive Flat : Json → Prop
  | reference (target : String) : Flat (referenceTo target)
  | empty : Flat (.object [])
  | array {items : Json} : Flat items → Flat (arrayOf items)
  | oneOf {alternatives : List Json} : (∀ alternative ∈ alternatives, Flat alternative) →
      Flat (.object [("oneOf", .array alternatives)])
  | leaf {type : Option String} {name : String} {title : Option Json} :
      (∀ key ∈ type, key ∈ typeKeys) → (∀ text ∈ title, text.isString) →
      Flat (leaf type name title)

section Members

variable {P : Json → Prop} {key : String} {value : Json}

theorem allowed_type (h : key ∈ typeKeys) : Allowed P ("type", .string key) :=
  Or.inr ⟨.typeName, rfl, ⟨key, h, rfl⟩, List.forall_mem_nil _⟩

theorem allowed_text (hc : contents.get? key = some .text) (hv : value.isString) :
    Allowed P (key, value) :=
  Or.inr ⟨.text, hc, isText_of_isString hv, List.forall_mem_nil _⟩

/-- Distinct required names stand in a list unless there are none. -/
theorem allowed_required {names : List String} (hn : names.Nodup) (hne : names ≠ []) :
    Allowed P ("required", .array (names.map .string)) :=
  Or.inr ⟨.distinctNames, rfl, ⟨names, rfl, hne, hn⟩, List.forall_mem_nil _⟩

end Members

/-- A flat value is a reference or a Schema Object. -/
theorem Flat.conforms {value : Json} (h : Flat value) : IsReference value ∨ Conforms value := by
  induction h with
  | reference target => exact Or.inl ⟨target, rfl⟩
  | empty => exact Or.inr (conforms_of_allowed (List.forall_mem_nil _))
  | array _ ih =>
    refine Or.inr (conforms_of_allowed fun entry hm => ?_)
    rcases List.mem_cons.mp hm with rfl | hm
    · exact allowed_type (by decide)
    · rw [List.mem_singleton.mp hm]
      exact Or.inr ⟨.schema, rfl, trivial, List.forall_mem_singleton.mpr ih⟩
  | oneOf _ ih =>
    refine Or.inr (conforms_of_allowed fun entry hm => ?_)
    rw [List.mem_singleton.mp hm]
    exact Or.inr ⟨.schemas, rfl, ⟨_, rfl⟩, ih⟩
  | leaf ht hs =>
    refine Or.inr (conforms_of_allowed fun entry hm => ?_)
    simp only [List.mem_append, Option.mem_toList, Option.map_eq_some_iff,
      List.mem_singleton] at hm
    rcases hm with (⟨key, hk, rfl⟩ | rfl) | ⟨text, hx, rfl⟩
    · exact allowed_type (ht key hk)
    · exact allowed_text rfl rfl
    · exact allowed_text rfl (hs text hx)

/-- A flat component of an object with distinct required names is a Schema Object. -/
theorem check_objectOf {names : List String} {properties : Entries Json} (hn : names.Nodup)
    (hp : ∀ entry ∈ properties, Flat entry.2) :
    check (objectOf (names.map .string) properties) = [] := by
  refine check_eq_nil_iff.mpr (conforms_of_allowed fun entry hm => ?_)
  simp only [List.mem_append, List.mem_singleton] at hm
  rcases hm with (rfl | hm) | rfl
  · exact allowed_type (by decide)
  · split at hm
    · cases hm
    · rename_i hne
      rw [List.mem_singleton.mp hm]
      exact allowed_required hn fun he => hne (by rw [he]; rfl)
  · refine Or.inr ⟨.named, rfl, ⟨properties, rfl⟩, List.forall_mem_map.mpr fun entry he => ?_⟩
    exact (hp entry he).conforms

/-- The members of a parameter's schema are keywords with texts, and an example. -/
theorem check_parameterSchema {schema : Operation.ParameterSchema}
    (ht : ∀ key ∈ schema.type, key ∈ typeKeys) : check schema.toJson = [] := by
  refine check_eq_nil_iff.mpr (conforms_of_allowed fun entry hm => ?_)
  simp only [List.mem_append, Json.optionalString, Json.optional, Option.mem_toList,
    Option.map_eq_some_iff] at hm
  rcases hm with ((⟨_, ⟨key, hk, rfl⟩, rfl⟩ | ⟨value, _, rfl⟩) | ⟨_, ⟨text, _, rfl⟩, rfl⟩) |
    ⟨_, ⟨text, _, rfl⟩, rfl⟩
  · exact allowed_type (ht key hk)
  · exact Or.inr ⟨.anything, rfl, trivial, List.forall_mem_nil _⟩
  · exact allowed_text rfl rfl
  · exact allowed_text rfl rfl

end RouteDoc.Schema.SchemaObject
