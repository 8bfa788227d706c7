import RouteDoc.Proofs.Entries
import RouteDoc.Schema.Rule

namespace RouteDoc.Schema

/-- What stands under a keyword. -/
inductive Form where
  /-- Any value, of which no part is a schema. -/
  | data
  | text
  | flag
  | number
  /-- A number above zero. -/
  | positive
  /-- An integer that is not negative. -/
  | count
  | list
  /-- A list that is not empty. -/
  | choices
  | names
  /-- A list of names, neither empty nor with repeats. -/
  | distinctNames
  /-- One of these texts. -/
  | word (allowed : List String)
  /-- One of these types, or a list of any types. -/
  | types (single : List String)
  | schema
  | schemaOrFlag
  | schemas
  /-- Schemas by name, where some names may not be used. -/
  | named (reserved : List String)
deriving DecidableEq

/-- The names of the types of JSON values. -/
def typeNames : List String := TypeName.all.map TypeName.key

namespace Form

/-- A value has the form, whatever the schemas in it are. -/
def has : Form → Json → Bool
  | data, _ => true
  | text, value => value.isString
  | flag, .bool _ => true
  | number, value => value.isNumber
  | positive, value => numberOrder value 0 = some .gt
  | count, .number (.integer n) => 0 ≤ n
  | list, .array _ => true
  | choices, .array items => !items.isEmpty
  | names, .array items => items.all Json.isString
  | distinctNames, .array items => !items.isEmpty && items.all Json.isString && !hasRepeats items
  | word allowed, .string s => allowed.contains s
  | types single, .string type => single.contains type
  | types _, .array items => items.all fun type => type.asString?.any typeNames.contains
  | schema, _ => true
  | schemaOrFlag, _ => true
  | schemas, .array _ => true
  | named reserved, .object members =>
    (Entries.keys members).Nodup && (Entries.keys members).all fun name => !reserved.contains name
  | _, _ => false

/-- The schemas that stand in a value of the form. -/
def schemasIn : Form → Json → List Json
  | schema, value => [value]
  | schemaOrFlag, .bool _ => []
  | schemaOrFlag, value => [value]
  | schemas, .array items => items
  | named _, .object members => members.map Prod.snd
  | _, _ => []

theorem exists_array {value : Json} (h : schemas.has value = true) :
    ∃ items, value = .array items := by
  cases value with
  | array items => exact ⟨items, rfl⟩
  | _ => cases h

theorem exists_object {reserved : List String} {value : Json}
    (h : (named reserved).has value = true) : ∃ members, value = .object members := by
  cases value with
  | object members => exact ⟨members, rfl⟩
  | _ => cases h

theorem eq_of_mem_schemaOrFlag {value inner : Json} (h : inner ∈ schemaOrFlag.schemasIn value) :
    inner = value := by
  cases value with
  | bool verdict => cases h
  | _ => exact List.mem_singleton.mp h

end Form

/-- Keywords with the forms of their values. -/
structure Vocabulary where
  keywords : Entries Form
  /-- A boolean stands for a schema, too. -/
  flags : Bool

namespace Vocabulary

variable {vocabulary : Vocabulary} {entry : String × Json}

/-- The keyword is known and its value has the form that goes with it. -/
def admits (vocabulary : Vocabulary) (entry : String × Json) : Bool :=
  (vocabulary.keywords.get? entry.1).any fun form => form.has entry.2

/-- The schemas under a keyword. -/
def within (vocabulary : Vocabulary) (entry : String × Json) : List Json :=
  ((vocabulary.keywords.get? entry.1).map fun form => form.schemasIn entry.2).getD []

/-- A keyword with a value of its form, in which `P` holds of every schema. -/
def Allows (vocabulary : Vocabulary) (P : Json → Prop) (entry : String × Json) : Prop :=
  ∃ form, vocabulary.keywords.get? entry.1 = some form ∧ form.has entry.2 = true ∧
    ∀ schema ∈ form.schemasIn entry.2, P schema

variable {P : Json → Prop} {form : Form} {key : String} {value : Json}

theorem allows_iff : vocabulary.Allows P entry ↔
    vocabulary.admits entry = true ∧ ∀ schema ∈ vocabulary.within entry, P schema := by
  unfold Allows admits within
  cases vocabulary.keywords.get? entry.1 <;> simp

theorem Allows.has (h : vocabulary.Allows P (key, value))
    (hf : vocabulary.keywords.get? key = some form) : form.has value = true := by
  obtain ⟨other, ho, hhas, _⟩ := h
  rw [hf] at ho
  exact Option.some.inj ho ▸ hhas

theorem Allows.schemas (h : vocabulary.Allows P (key, value))
    (hf : vocabulary.keywords.get? key = some form) :
    ∀ schema ∈ form.schemasIn value, P schema := by
  obtain ⟨other, ho, _, hschemas⟩ := h
  rw [hf] at ho
  exact Option.some.inj ho ▸ hschemas

end Vocabulary

/-- A schema uses the keywords of a vocabulary only, and so do the schemas in it. -/
inductive Uses (vocabulary : Vocabulary) : Json → Prop
  | flag {verdict : Bool} : vocabulary.flags = true → Uses vocabulary (.bool verdict)
  | object {members : Entries Json} : members.keys.Nodup →
      (∀ entry ∈ members, vocabulary.admits entry = true) →
      (∀ entry ∈ members, ∀ schema ∈ vocabulary.within entry, Uses vocabulary schema) →
      Uses vocabulary (.object members)

namespace Uses

variable {vocabulary : Vocabulary} {members : Entries Json} {key : String} {value : Json}

theorem nodup (h : Uses vocabulary (.object members)) : members.keys.Nodup := by
  cases h with
  | object hn _ _ => exact hn

theorem allows (h : Uses vocabulary (.object members)) :
    ∀ entry ∈ members, vocabulary.Allows (Uses vocabulary) entry := by
  cases h with
  | object _ ha hw => exact fun entry hm => Vocabulary.allows_iff.mpr ⟨ha entry hm, hw entry hm⟩

theorem of_allows (hn : members.keys.Nodup)
    (h : ∀ entry ∈ members, vocabulary.Allows (Uses vocabulary) entry) :
    Uses vocabulary (.object members) :=
  .object hn (fun entry hm => (Vocabulary.allows_iff.mp (h entry hm)).1)
    fun entry hm => (Vocabulary.allows_iff.mp (h entry hm)).2

theorem of_within (hn : members.keys.Nodup) (ha : ∀ entry ∈ members, vocabulary.admits entry = true)
    (hw : ∀ schema ∈ members.flatMap vocabulary.within, Uses vocabulary schema) :
    Uses vocabulary (.object members) :=
  .object hn ha fun entry hm schema hs => hw schema (List.mem_flatMap.mpr ⟨entry, hm, hs⟩)

/-- What holds of an object whenever it holds of the schemas in it holds of every schema. -/
theorem induction {P : Json → Prop}
    (flag : ∀ verdict, vocabulary.flags = true → P (.bool verdict))
    (object : ∀ members, Uses vocabulary (.object members) →
      (∀ entry ∈ members, vocabulary.Allows P entry) → P (.object members))
    (h : Uses vocabulary value) : P value := by
  induction h with
  | flag hflags => exact flag _ hflags
  | @object members hn ha hw ih =>
    exact object members (.object hn ha hw) fun entry hm =>
      Vocabulary.allows_iff.mpr ⟨ha entry hm, ih entry hm⟩

/-- A member has the form that goes with its keyword. -/
theorem form {form : Form} (h : Uses vocabulary (.object members))
    (hf : vocabulary.keywords.get? key = some form) (hg : members.get? key = some value) :
    form.has value = true :=
  (h.allows (key, value) (Entries.mem_of_get? hg)).has hf

theorem get?_eq_none (h : Uses vocabulary (.object members))
    (hf : vocabulary.keywords.get? key = none) : members.get? key = none := by
  refine Option.eq_none_iff_forall_ne_some.mpr fun value hg => ?_
  obtain ⟨form, hform, _⟩ := h.allows (key, value) (Entries.mem_of_get? hg)
  exact absurd (hform.symm.trans hf) (Option.some_ne_none form)

/-- Another member that the vocabulary allows may be inserted. -/
theorem insert (h : Uses vocabulary (.object members))
    (hm : vocabulary.Allows (Uses vocabulary) (key, value)) :
    Uses vocabulary (.object (members.insert key value)) := by
  refine of_allows (Entries.nodup_insert h.nodup) fun entry he => ?_
  rcases Entries.mem_insert he with rfl | he
  · exact hm
  · exact h.allows entry he

end Uses

end RouteDoc.Schema
