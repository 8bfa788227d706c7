import RouteDoc.Proofs.Schema.Acceptance
import RouteDoc.Proofs.Schema.Lowering

namespace RouteDoc.Schema

open Downgrade

/-- The keywords on which `accepts` decides, and annotations. -/
def Vocabulary.judged : Vocabulary where
  keywords := [
    ("type", .types typeNames),
    ("const", .data),
    ("enum", .list),
    ("minimum", .number),
    ("maximum", .number),
    ("exclusiveMinimum", .number),
    ("exclusiveMaximum", .number),
    ("properties", .named []),
    ("required", .names),
    ("items", .schema),
    ("additionalProperties", .schema),
    ("anyOf", .schemas),
    ("allOf", .schemas),
    ("$schema", .data),
    ("$id", .data),
    ("id", .text),
    ("$comment", .data),
    ("examples", .data),
    ("example", .data),
    ("title", .data),
    ("description", .data)]
  flags := true

/-- Lowering the schema costs no value. -/
def Relaxes (schema : Json) : Prop :=
  ∀ value, accepts .draft7 schema value = true → accepts .openApi30 (downgrade schema) value = true

/-- A value satisfies what stands under each key. -/
def Reads (version : Version) (members : Entries Json) (value : Json) : Prop :=
  ∀ key keyword, members.get? key = some keyword → holds version members key keyword value = true

section Verdicts

variable {schemas : List Json} {value : Json}

theorem any_relaxed (hr : ∀ schema ∈ schemas, Relaxes schema)
    (h : (verdicts .draft7 schemas value).any id = true) :
    (verdicts .openApi30 (schemas.map downgrade) value).any id = true := by
  simp only [verdicts_eq, List.any_map, List.any_eq_true] at h ⊢
  obtain ⟨schema, hm, ha⟩ := h
  exact ⟨schema, hm, hr schema hm value ha⟩

theorem all_relaxed (hr : ∀ schema ∈ schemas, Relaxes schema)
    (h : (verdicts .draft7 schemas value).all id = true) :
    (verdicts .openApi30 (schemas.map downgrade) value).all id = true := by
  simp only [verdicts_eq, List.all_map, List.all_eq_true] at h ⊢
  exact fun schema hm => hr schema hm value (h schema hm)

theorem declared_relaxed {schemas : Entries Json} (hr : ∀ entry ∈ schemas, Relaxes entry.2)
    (h : (memberVerdicts .draft7 schemas value).all id = true) :
    (memberVerdicts .openApi30 (downgradeEach schemas) value).all id = true := by
  rw [downgradeEach_eq]
  simp only [memberVerdicts_eq, List.all_map, List.all_eq_true, Function.comp_apply, id,
    Option.all_eq_true] at h ⊢
  exact fun entry hm member hget => hr entry hm member (h entry hm member hget)

end Verdicts

section Keywords

variable {members after : Entries Json} {keyword value : Json}

theorem bounded_mono {allowed more : List Ordering} (hs : ∀ order ∈ allowed, order ∈ more)
    (h : bounded allowed keyword value = true) : bounded more keyword value = true := by
  unfold bounded at h ⊢
  split
  · exact List.contains_iff_mem.mpr (hs _ (List.contains_iff_mem.mp h))
  · rfl

theorem isNull_of_isOfType (h : isOfType value "null" = true) : value.isNull = true := by
  cases value with
  | null => rfl
  | _ => simp [isOfType, TypeName.all, TypeName.key, Dialect.hasType] at h

/-- One of the types of a list is the value's, and it is not null unless the value is. -/
theorem exists_type {types : List Json} (hr : Reads .draft7 members value)
    (ht : members.get? "type" = some (.array types))
    (hnull : listsNull (.array types) = true → value.isNull = false) :
    ∃ name, .string name ∈ concrete types ∧ isOfType value name = true := by
  have hany : types.any (fun name => name.asString?.any (isOfType value)) = true :=
    hr "type" (.array types) ht
  obtain ⟨type, hm, hname⟩ := List.any_eq_true.mp hany
  cases type with
  | string name =>
    refine ⟨name, List.mem_filter.mpr ⟨hm, ?_⟩, hname⟩
    cases hn : isNullType (.string name) with
    | false => rfl
    | true =>
      have hlists : listsNull (.array types) = true := List.any_eq_true.mpr ⟨_, hm, hn⟩
      have hisNull : name = "null" := Json.string.inj (eq_of_isNullType hn)
      rw [isNull_of_isOfType (hisNull ▸ hname)] at hnull
      exact absurd (hnull hlists) (by decide)
  | _ => cases hname

theorem soleType_relaxed {type : Json} (hr : Reads .draft7 members value)
    (ht : members.get? "type" = some type) (hs : soleType type = some keyword)
    (hnull : listsNull type = true → value.isNull = false) :
    holds .openApi30 after "type" keyword value = true := by
  cases type with
  | array types =>
    obtain ⟨name, hm, hname⟩ := exists_type hr ht hnull
    rw [concrete_of_soleType hs] at hm
    rw [← List.mem_singleton.mp hm]
    exact hname
  | _ =>
    rw [← Option.some.inj hs]
    exact hr "type" _ ht

theorem alternatives_relaxed {type : Json} (hr : Reads .draft7 members value)
    (ht : members.get? "type" = some type) (hs : alternatives type = some keyword)
    (hnull : listsNull type = true → value.isNull = false) :
    holds .openApi30 after "anyOf" keyword value = true := by
  cases type with
  | array types =>
    obtain ⟨name, hm, hname⟩ := exists_type hr ht hnull
    have haccepts : accepts .openApi30 (typeBranch (.string name)) value = true := by
      refine accepts_object.mpr (.inr fun entry he => ?_)
      rw [List.mem_singleton.mp he]
      exact hname
    have hany : (branchVerdicts .openApi30 keyword value).any id = true := by
      rw [eq_of_alternatives hs, branchVerdicts, verdicts_eq, List.any_map]
      exact List.any_eq_true.mpr ⟨_, List.mem_map_of_mem hm, haccepts⟩
    exact hany
  | _ => cases hs

theorem constant_relaxed {constant : Json} (hr : Reads .draft7 members value)
    (hg : members.get? "const" = some constant) :
    holds .openApi30 after "enum" (.array [constant]) value = true := by
  have hequal : Json.equal constant value = true := hr "const" constant hg
  have hany : [constant].any (fun choice => Json.equal choice value) = true := by
    rw [List.any_cons, hequal, Bool.true_or]
  exact hany

/-- How a bound and the keyword that excludes it ask, whichever side they are on. -/
structure Side (flag bound : String) (strict : Ordering) : Prop where
  flagged {version : Version} {siblings : Entries Json} {keyword value : Json} :
    holds version siblings flag keyword value = bounded [strict] keyword value
  plain {version : Version} {siblings : Entries Json} {keyword value : Json} :
    holds version siblings bound keyword value =
      bounded (if version.excludes siblings flag then [strict] else [strict, .eq]) keyword value

theorem exists_side {flag bound : String} (h : (flag, bound) ∈ sides) :
    ∃ strict, Side flag bound strict := by
  simp only [sides, List.mem_cons, List.not_mem_nil, or_false, Prod.mk.injEq] at h
  rcases h with ⟨rfl, rfl⟩ | ⟨rfl, rfl⟩
  · exact ⟨.gt, rfl, rfl⟩
  · exact ⟨.lt, rfl, rfl⟩

/-- An exclusive bound asks at least what it asks in place of the plain one. -/
theorem limit_relaxed {flag bound : String} (hs : (flag, bound) ∈ sides)
    (hr : Reads .draft7 members value) (hg : members.get? flag = some keyword) :
    holds .openApi30 after bound keyword value = true := by
  obtain ⟨strict, hside⟩ := exists_side hs
  have hstrict : bounded [strict] keyword value = true := hside.flagged.symm.trans (hr _ _ hg)
  rw [hside.plain]
  refine bounded_mono (fun order ho => ?_) hstrict
  rw [List.mem_singleton.mp ho]
  split <;> exact List.mem_cons_self

/-- A plain bound stays as it is, for no flag is set beside it. -/
theorem bound_relaxed {flag bound : String} (hs : (flag, bound) ∈ sides)
    (hr : Reads .draft7 members value) (hflag : after.get? flag = none)
    (hg : members.get? bound = some keyword) :
    holds .openApi30 after bound keyword value = true := by
  obtain ⟨strict, hside⟩ := exists_side hs
  have hheld := hr bound keyword hg
  have hnot : Version.excludes .openApi30 after flag = false := by
    simp [Version.excludes, hflag]
  rw [hside.plain] at hheld ⊢
  rw [hnot]
  exact hheld

/-- A number that was an exclusive bound is a flag now, which asks nothing by itself. -/
theorem flag_relaxed {flag bound : String} {limit : Json} (hs : (flag, bound) ∈ sides)
    (hn : limit.isNumber = true) : holds .openApi30 after flag (flagged limit) value = true := by
  obtain ⟨strict, hside⟩ := exists_side hs
  rw [hside.flagged]
  cases limit with
  | number n => rfl
  | _ => cases hn

end Keywords

section Children

variable {members after : Entries Json} {key : String} {keyword value : Json}

theorem named_relaxed {schemas : Entries Json} (hs : ∀ entry ∈ schemas, Relaxes entry.2)
    (h : holds .draft7 members "properties" (.object schemas) value = true) :
    holds .openApi30 after "properties" (downgradeNamed (.object schemas)) value = true :=
  declared_relaxed hs h

theorem items_relaxed (hs : Relaxes keyword)
    (h : holds .draft7 members "items" keyword value = true) :
    holds .openApi30 after "items" (downgrade keyword) value = true :=
  List.all_eq_true.mpr fun item hm => hs item (List.all_eq_true.mp h item hm)

theorem allOf_relaxed {schemas : List Json} (hs : ∀ schema ∈ schemas, Relaxes schema)
    (h : holds .draft7 members "allOf" (.array schemas) value = true) :
    holds .openApi30 after "allOf" (downgrade (.array schemas)) value = true := by
  rw [downgrade, downgradeItems_eq]
  exact all_relaxed hs h

theorem anyOf_relaxed {schemas : List Json} (hs : ∀ schema ∈ schemas, Relaxes schema)
    (h : holds .draft7 members "anyOf" (.array schemas) value = true) :
    holds .openApi30 after "anyOf" (downgrade (.array schemas)) value = true := by
  rw [downgrade, downgradeItems_eq]
  exact any_relaxed hs h

/-- Lowering renames no property, so the same members are undeclared. -/
theorem undeclared_lowered
    (hp : after.get? "properties" = (members.get? "properties").map downgradeNamed) :
    undeclared after value = undeclared members value := by
  have hhas (name : String) (named : Json) :
      (downgradeNamed named).asObject?.any (Entries.has name) =
        named.asObject?.any (Entries.has name) := by
    cases named with
    | object schemas =>
      simp only [downgradeNamed, downgradeEach_eq, Json.asObject?, Option.any_some, Entries.has,
        Entries.get?_map, Option.isSome_map]
    | _ => rfl
  unfold undeclared
  rw [hp]
  cases members.get? "properties" with
  | none => rfl
  | some named => simp only [Option.map_some, Option.bind_some, hhas]

theorem additional_relaxed (hs : Relaxes keyword)
    (hp : after.get? "properties" = (members.get? "properties").map downgradeNamed)
    (h : holds .draft7 members "additionalProperties" keyword value = true) :
    holds .openApi30 after "additionalProperties" (downgrade keyword) value = true := by
  have hall : (undeclared members value).all (fun member => accepts .draft7 keyword member.2) =
    true := h
  have hmembers : (undeclared after value).all
      (fun member => accepts .openApi30 (downgrade keyword) member.2) = true := by
    rw [undeclared_lowered hp]
    exact List.all_eq_true.mpr fun member hm => hs _ (List.all_eq_true.mp hall member hm)
  exact hmembers

end Children

section Node

variable {members : Entries Json} {key : String} {keyword value : Json}

/-- Members that the vocabulary allows, and every schema in them relaxes. -/
abbrev SchemasRelax (members : Entries Json) : Prop :=
  ∀ entry ∈ members, Vocabulary.judged.Allows Relaxes entry

theorem SchemasRelax.within {form : Form} (hi : SchemasRelax members)
    (hf : Vocabulary.judged.keywords.get? key = some form) (hg : members.get? key = some keyword) :
    form.has keyword = true ∧ ∀ schema ∈ form.schemasIn keyword, Relaxes schema :=
  ⟨(hi _ (Entries.mem_of_get? hg)).has hf, (hi _ (Entries.mem_of_get? hg)).schemas hf⟩

theorem SchemasRelax.schema (hi : SchemasRelax members)
    (hf : Vocabulary.judged.keywords.get? key = some .schema)
    (hg : members.get? key = some keyword) : Relaxes keyword :=
  (hi.within hf hg).2 keyword List.mem_cons_self

theorem SchemasRelax.schemas (hi : SchemasRelax members)
    (hf : Vocabulary.judged.keywords.get? key = some .schemas)
    (hg : members.get? key = some keyword) :
    ∃ schemas, keyword = .array schemas ∧ ∀ schema ∈ schemas, Relaxes schema := by
  obtain ⟨hhas, hschemas⟩ := hi.within hf hg
  obtain ⟨schemas, rfl⟩ := Form.exists_array hhas
  exact ⟨schemas, rfl, hschemas⟩

theorem SchemasRelax.named (hi : SchemasRelax members)
    (hg : members.get? "properties" = some keyword) :
    ∃ schemas, keyword = .object schemas ∧ ∀ entry ∈ schemas, Relaxes entry.2 := by
  have hf : Vocabulary.judged.keywords.get? "properties" = some (.named []) := rfl
  obtain ⟨hhas, hschemas⟩ := hi.within hf hg
  obtain ⟨schemas, rfl⟩ := Form.exists_object hhas
  exact ⟨schemas, rfl, fun entry hm => hschemas entry.2 (List.mem_map_of_mem hm)⟩

/-- The other slots of child schemas are no keywords of the vocabulary. -/
theorem lowerChild_of_known (hu : Uses .judged (.object members))
    (hg : members.get? key = some keyword) (hslot : key ∉ childKeywords) :
    lowerChild key keyword = keyword := by
  obtain ⟨form, hform, _⟩ := hu.allows (key, keyword) (Entries.mem_of_get? hg)
  have hknown (other : String) (hnone : Vocabulary.judged.keywords.get? other = none) :
      key ≠ other := by
    rintro rfl
    exact absurd (hform.symm.trans hnone) (Option.some_ne_none _)
  have hnot := hknown "not" rfl
  have honeOf := hknown "oneOf" rfl
  have hdefinitions := hknown "definitions" rfl
  simp only [childKeywords, List.mem_cons, List.not_mem_nil, or_false, not_or] at hslot
  simp [lowerChild, namedSlots, directSlots, hslot, hnot, honeOf, hdefinitions]

/-- A keyword that the lowering leaves where it is. -/
theorem kept_relaxed {after : Entries Json} (hu : Uses .judged (.object members))
    (hi : SchemasRelax members) (hr : Reads .draft7 members value)
    (hp : after.get? "properties" = (members.get? "properties").map downgradeNamed)
    (hk : key ∉ ruled) (hg : members.get? key = some keyword) :
    holds .openApi30 after key (lowerChild key keyword) value = true := by
  have hheld := hr key keyword hg
  by_cases hslot : key ∈ childKeywords
  · simp only [childKeywords, List.mem_cons, List.not_mem_nil, or_false] at hslot
    rcases hslot with rfl | rfl | rfl | rfl | rfl
    · obtain ⟨schemas, rfl, hs⟩ := hi.named hg
      exact named_relaxed hs hheld
    · exact additional_relaxed (hi.schema rfl hg) hp hheld
    · exact items_relaxed (hi.schema rfl hg) hheld
    · obtain ⟨schemas, rfl, hs⟩ := hi.schemas rfl hg
      exact anyOf_relaxed hs hheld
    · obtain ⟨schemas, rfl, hs⟩ := hi.schemas rfl hg
      exact allOf_relaxed hs hheld
  · have hmin : key ≠ "minimum" := fun he => hk (he ▸ by decide)
    have hmax : key ≠ "maximum" := fun he => hk (he ▸ by decide)
    rw [lowerChild_of_known hu hg hslot, holds_of_plain hslot, asserts_congr .draft7 hmin hmax]
    exact holds_of_plain hslot ▸ hheld

/-- Where null is in the type list and is the value, the node is nullable and admits it. -/
theorem admitsNull_lowered (hn : members.keys.Nodup) (hnull : value.isNull = true)
    (ht : (members.get? "type").any listsNull = true) : Version.admitsNull .openApi30
      (downgradeNode (downgradeChildren members)) value = true := by
  have hnullable := get?_nullable_lowered hn
  rw [if_pos ht] at hnullable
  rw [Version.admitsNull, hnullable, hnull]
  rfl

/-- Whatever the origin of a member, the members it comes from ask as much of the value. -/
theorem member_relaxed (hu : Uses .judged (.object members)) (hi : SchemasRelax members)
    (hr : Reads .draft7 members value)
    (hnull : (members.get? "type").any listsNull = true → value.isNull = false)
    (h : Origin members key keyword) :
    holds .openApi30 (downgradeNode (downgradeChildren members)) key keyword value = true := by
  have hnumber : ∀ side ∈ sides, Vocabulary.judged.keywords.get? side.1 = some .number := by decide
  have hproperties : (downgradeNode (downgradeChildren members)).get? "properties" =
      (members.get? "properties").map downgradeNamed :=
    (get?_lowered hu.nodup).trans get?_downgradeChildren
  cases h with
  | kept hk hg => exact kept_relaxed hu hi hr hproperties hk hg
  | otherId _ _ => rfl
  | constant hg => exact constant_relaxed hr hg
  | soleType ht hs => exact soleType_relaxed hr ht hs (by simpa [ht] using hnull)
  | alternatives ht hs => exact alternatives_relaxed hr ht hs (by simpa [ht] using hnull)
  | nullable _ _ => rfl
  | limit hside hg _ => exact limit_relaxed hside hr hg
  | @bound flag _ _ hside hfilter hg =>
    have hnone : members.get? flag = none := by
      cases hf : members.get? flag with
      | none => rfl
      | some limit =>
        have hlimit : limit.isNumber = true := hu.form (hnumber _ hside) hf
        rw [hf, Option.filter_some, if_pos hlimit] at hfilter
        cases hfilter
    exact bound_relaxed hside hr (by rw [get?_flag_lowered hu.nodup hside, hnone]; rfl) hg
  | flag hside hg => exact flag_relaxed hside (hu.form (hnumber _ hside) hg)
  | firstExample _ _ => rfl

/-- One step of the induction: a node relaxes where the schemas in it do. -/
theorem relaxes_object (hu : Uses .judged (.object members)) (hi : SchemasRelax members) :
    Relaxes (.object members) := by
  intro value h
  have hr : Reads .draft7 members value := fun key keyword hg =>
    accepts_of_draft7 h (key, keyword) (Entries.mem_of_get? hg)
  refine accepts_object.mpr ?_
  by_cases hnull : (members.get? "type").any listsNull = true ∧ value.isNull = true
  · exact .inl (admitsNull_lowered hu.nodup hnull.2 hnull.1)
  · refine .inr fun entry hm => ?_
    have hnot : (members.get? "type").any listsNull = true → value.isNull = false :=
      fun ht => eq_false_of_ne_true fun hv => hnull ⟨ht, hv⟩
    exact member_relaxed hu hi hr hnot (.of_mem hu.nodup hm)

/-- Lowering never rejects a value that the schema accepted. -/
theorem accepts_downgrade {schema : Json} (hu : Uses .judged schema)
    (h : accepts .draft7 schema value = true) :
    accepts .openApi30 (downgrade schema) value = true :=
  hu.induction (P := Relaxes) (fun _ _ _ accepted => accepted)
    (fun _ => relaxes_object) value h

end Node

/-- The size of an order: several types, null among them, and two bounds on one side. -/
def sizeSchema : Json := .object [
  ("type", .array [.string "integer", .string "string", .string "null"]),
  ("minimum", .ofNat 1),
  ("exclusiveMinimum", .ofNat 2)]

def kindSchema : Json := .object [("$comment", .string "fixed"), ("const", .string "box")]

def orderSchema : Json := .object [
  ("$id", .string "order"),
  ("type", .array [.string "object", .string "null"]),
  ("required", .array [.string "size"]),
  ("properties", .object [("size", sizeSchema), ("kind", kindSchema)]),
  ("additionalProperties", .bool false)]

def order : Json := .object [("size", .ofNat 3), ("kind", .string "box")]

theorem uses_orderSchema : Uses .judged orderSchema := by
  have hsize : Uses .judged sizeSchema :=
    .of_within (by decide) (by decide) (List.forall_mem_nil _)
  have hkind : Uses .judged kindSchema :=
    .of_within (by decide) (by decide) (List.forall_mem_nil _)
  refine .of_within (by decide) (by decide) fun schema hm => ?_
  have hwithin : schema ∈ [sizeSchema, kindSchema, .bool false] := hm
  simp only [List.mem_cons, List.not_mem_nil, or_false] at hwithin
  rcases hwithin with rfl | rfl | rfl
  · exact hsize
  · exact hkind
  · exact .flag rfl

theorem accepts_downgrade_order : Uses .judged orderSchema ∧
    accepts .draft7 orderSchema order = true ∧
      accepts .openApi30 (downgrade orderSchema) order = true :=
  ⟨uses_orderSchema, by decide, accepts_downgrade uses_orderSchema (by decide)⟩

end RouteDoc.Schema
