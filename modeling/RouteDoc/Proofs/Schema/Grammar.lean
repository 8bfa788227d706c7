import RouteDoc.Proofs.Schema.Rule
import RouteDoc.Schema.SchemaObject

namespace RouteDoc.Schema.SchemaObject

/-- The types that a Schema Object may have. -/
def typeKeys : List String := ["array", "boolean", "integer", "number", "object", "string"]

def IsText (value : Json) : Prop := ∃ text, value = .string text

def IsFlag (value : Json) : Prop := ∃ flag, value = .bool flag

/-- Members of known names have the shapes that go with the names; all others are extensions. -/
def OnlyFields (fields : Entries (Json → Prop)) (members : Entries Json) : Prop :=
  ∀ entry ∈ members, (isExtension entry.1 = true ∨ (fields.get? entry.1).isSome) ∧
    ∀ shape ∈ fields.get? entry.1, shape entry.2

/-- An object that has the key of references with a text, whatever else it has. -/
def IsReference (value : Json) : Prop := ∃ target, value.get? "$ref" = some (.string target)

/-- A property that tells alternatives apart, and what its values stand for. -/
def IsDiscriminator (value : Json) : Prop :=
  (∃ name, value.get? "propertyName" = some (.string name)) ∧
    ∀ mapping ∈ value.get? "mapping",
      ∃ names, mapping = .object names ∧ ∀ entry ∈ names, IsText entry.2

def IsDocumentation (value : Json) : Prop :=
  ∃ members, value = .object members ∧ (value.get? "url").isSome ∧
    OnlyFields [("description", IsText), ("url", IsText)] members

def IsXml (value : Json) : Prop :=
  ∃ members, value = .object members ∧ OnlyFields [("name", IsText), ("namespace", IsText),
    ("prefix", IsText), ("attribute", IsFlag), ("wrapped", IsFlag)] members

/-- What stands under a keyword of a Schema Object. -/
inductive Content where
  | anything
  | text
  | flag
  | number
  /-- A number above zero. -/
  | positive
  /-- An integer that is not negative. -/
  | count
  /-- A list that is not empty. -/
  | choices
  /-- A list of names, neither empty nor with repeats. -/
  | distinctNames
  | typeName
  | schema
  | schemas
  /-- Schemas by name. -/
  | named
  | schemaOrFlag
  | discriminator
  | documentation
  | xml

namespace Content

/-- The value has the shape of the content, whatever the schemas in it are. -/
def Suits : Content → Json → Prop
  | anything, _ => True
  | text, value => IsText value
  | flag, value => IsFlag value
  | number, value => ∃ n, value = .number n
  | positive, value => ∃ n, value = .number n ∧ n.order (.integer 0) = .gt
  | count, value => ∃ n, value = .ofNat n
  | choices, value => ∃ items, value = .array items ∧ items ≠ []
  | distinctNames, value =>
    ∃ names : List String, value = .array (names.map .string) ∧ names ≠ [] ∧ names.Nodup
  | typeName, value => ∃ type ∈ typeKeys, value = .string type
  | schema, _ => True
  | schemas, value => ∃ items, value = .array items
  | named, value => ∃ members, value = .object members
  | schemaOrFlag, _ => True
  | discriminator, value => IsDiscriminator value
  | documentation, value => IsDocumentation value
  | xml, value => IsXml value

/-- Where schemas or references stand in the value. -/
def schemasIn : Content → Json → List Json
  | schema, value => [value]
  | schemas, .array items => items
  | named, .object members => members.map Prod.snd
  | schemaOrFlag, .bool _ => []
  | schemaOrFlag, value => [value]
  | _, _ => []

/-- The rules for values of the content. -/
def rules : Content → List Rule
  | anything => []
  | text => string
  | flag => boolean
  | number => SchemaObject.number
  | positive => [.types [.number], .moreThan 0]
  | count => SchemaObject.count
  | choices => [.types [.array], .minItems 1]
  | distinctNames => [.types [.array], .items string, .minItems 1, .distinct]
  | typeName => [.types [.string], .values (typeKeys.map .string)]
  | schema => schemaOrReference
  | schemas => schemaList
  | named => [.types [.object], .everyMember schemaOrReference]
  | schemaOrFlag => [.choice .oneOf [[.see "Schema"], [.see "Reference"], [.types [.boolean]]]]
  | discriminator => [.see "Discriminator"]
  | documentation => [.see "ExternalDocumentation"]
  | xml => [.see "XML"]

end Content

/-- The keywords of a Schema Object. -/
def contents : Entries Content := [
  ("title", .text), ("multipleOf", .positive), ("maximum", .number), ("exclusiveMaximum", .flag),
  ("minimum", .number), ("exclusiveMinimum", .flag), ("maxLength", .count), ("minLength", .count),
  ("pattern", .text), ("maxItems", .count), ("minItems", .count), ("uniqueItems", .flag),
  ("maxProperties", .count), ("minProperties", .count), ("required", .distinctNames),
  ("enum", .choices), ("type", .typeName), ("not", .schema), ("allOf", .schemas),
  ("oneOf", .schemas), ("anyOf", .schemas), ("items", .schema), ("properties", .named),
  ("additionalProperties", .schemaOrFlag), ("description", .text), ("format", .text),
  ("default", .anything), ("nullable", .flag), ("discriminator", .discriminator),
  ("readOnly", .flag), ("writeOnly", .flag), ("example", .anything),
  ("externalDocs", .documentation), ("deprecated", .flag), ("xml", .xml)]

theorem keywords_eq : keywords = contents.map fun (key, content) => (key, content.rules) := rfl

/-- The values that stand for a schema under a keyword. -/
def schemasWithin (entry : String × Json) : List Json :=
  ((contents.get? entry.1).map fun content => content.schemasIn entry.2).getD []

/-- A Schema Object: its members are keywords with suitable values and extensions, and wherever a
schema stands in it there is a reference or another Schema Object. -/
inductive Conforms : Json → Prop
  | object {members : Entries Json} :
      OnlyFields (contents.map fun (key, content) => (key, content.Suits)) members →
      (∀ entry ∈ members, ∀ inner ∈ schemasWithin entry, ¬IsReference inner → Conforms inner) →
      Conforms (.object members)

/-- A member of a Schema Object, where `P` holds of whatever stands for a schema in it. -/
def Allowed (P : Json → Prop) (entry : String × Json) : Prop :=
  isExtension entry.1 = true ∧ contents.get? entry.1 = none ∨
    ∃ content, contents.get? entry.1 = some content ∧ content.Suits entry.2 ∧
      ∀ inner ∈ content.schemasIn entry.2, P inner

theorem Allowed.mono {P Q : Json → Prop} {entry : String × Json} (h : Allowed P entry)
    (hs : ∀ inner, P inner → Q inner) : Allowed Q entry :=
  h.imp_right fun ⟨content, hc, hsuits, hinner⟩ =>
    ⟨content, hc, hsuits, fun inner hi => hs inner (hinner inner hi)⟩

theorem conforms_of_allowed {members : Entries Json}
    (h : ∀ entry ∈ members, Allowed (fun inner => IsReference inner ∨ Conforms inner) entry) :
    Conforms (.object members) := by
  refine .object (fun entry hm => ?_) fun entry hm inner hi href => ?_
  · rw [Entries.get?_map]
    rcases h entry hm with ⟨hx, hc⟩ | ⟨content, hc, hsuits, _⟩
    · simp [hx, hc]
    · simp [hc, hsuits]
  · unfold schemasWithin at hi
    rcases h entry hm with ⟨_, hc⟩ | ⟨content, hc, _, hinner⟩
    · simp [hc] at hi
    · rw [hc] at hi
      exact (hinner inner hi).resolve_left href

section Rules

variable {look : String → Json → List Finding} {value : Json}

theorem isText_of_isString (h : value.isString) : IsText value := by
  cases value with
  | string text => exact ⟨text, rfl⟩
  | _ => cases h

theorem text_passed : allFindings dialect look string value = [] ↔ IsText value := by
  cases value <;> simp [string, allFindings, Rule.findings, Dialect.hasType, IsText]

theorem flag_passed : allFindings dialect look boolean value = [] ↔ IsFlag value := by
  cases value <;> simp [boolean, allFindings, Rule.findings, Dialect.hasType, IsFlag]

end Rules

/-- What is wrong with a value under a named definition, following at most `depth` references. -/
abbrev look (depth : Nat) : String → Json → List Finding := definitions.findings dialect depth

/-- The value is a schema or a reference, and not both. -/
def Fits (depth : Nat) (value : Json) : Prop :=
  allFindings dialect (look depth) schemaOrReference value = []

theorem fits_iff {depth : Nat} {value : Json} : Fits depth value ↔
    (look depth "Schema" value = [] ↔ look depth "Reference" value ≠ []) := by
  simp only [Fits, schemaOrReference, allFindings, Rule.findings, branchesPassed, List.append_nil]
  cases look depth "Schema" value <;> cases look depth "Reference" value <;> simp

section Named

variable {depth : Nat} {value : Json} {members : Entries Json}

theorem reference_passed : look (depth + 1) "Reference" value = [] ↔ IsReference value := by
  change allFindings dialect (look depth) [.types [.object], .required ["$ref"],
    .members [("$ref", string)]] value = [] ↔ _
  cases value with
  | object members =>
    simp only [allFindings, List.append_eq_nil_iff, types_object_passed, required_passed_iff,
      members_passed_iff, List.forall_mem_singleton, text_passed]
    cases hg : Entries.get? "$ref" members <;> simp [IsReference, IsText, Json.get?, hg]
  | _ => simp [allFindings, types_object_passed, IsReference, Json.get?]

theorem discriminator_passed :
    look (depth + 1) "Discriminator" value = [] ↔ IsDiscriminator value := by
  have hmapping : ∀ mapping, allFindings dialect (look depth)
      [.types [.object], .everyMember string] mapping = [] ↔
        ∃ names, mapping = .object names ∧ ∀ entry ∈ names, IsText entry.2 := by
    intro mapping
    cases mapping with
    | object names => simp [allFindings, types_object_passed, everyMember_passed_iff, text_passed]
    | _ => simp [allFindings, types_object_passed]
  change allFindings dialect (look depth) [.types [.object], .required ["propertyName"],
    .members [("propertyName", string), ("mapping", [.types [.object], .everyMember string])]]
      value = [] ↔ _
  cases value with
  | object members =>
    rw [allFindings, allFindings, allFindings, List.append_eq_nil_iff, List.append_eq_nil_iff,
      List.append_eq_nil_iff, types_object_passed, required_passed_iff, members_passed_iff,
      List.forall_mem_cons, List.forall_mem_singleton]
    simp only [hmapping, text_passed, IsDiscriminator]
    cases hn : Entries.get? "propertyName" members <;>
      simp [allFindings, IsText, Json.get?, hn]
  | _ => simp [allFindings, types_object_passed, IsDiscriminator, Json.get?]

theorem documentation_passed :
    look (depth + 1) "ExternalDocumentation" value = [] ↔ IsDocumentation value := by
  change allFindings dialect (look depth) [.types [.object], .required ["url"],
    .only [("description", string), ("url", string)]] value = [] ↔ _
  cases value with
  | object members =>
    have hfields : (Rule.only [("description", string), ("url", string)]).findings dialect
        (look depth) (.object members) = [] ↔
          OnlyFields [("description", IsText), ("url", IsText)] members := by
      rw [only_passed_iff]
      refine forall₂_congr fun entry _ => ?_
      simp only [Entries.get?]
      split_ifs <;> simp [text_passed]
    simp [allFindings, types_object_passed, required_passed_iff, hfields, IsDocumentation,
      Json.get?]
  | _ => simp [allFindings, types_object_passed, IsDocumentation]

theorem xml_passed : look (depth + 1) "XML" value = [] ↔ IsXml value := by
  change allFindings dialect (look depth) [.types [.object], .only [("name", string),
    ("namespace", string), ("prefix", string), ("attribute", boolean), ("wrapped", boolean)]]
      value = [] ↔ _
  cases value with
  | object members =>
    have hfields : (Rule.only [("name", string), ("namespace", string), ("prefix", string),
        ("attribute", boolean), ("wrapped", boolean)]).findings dialect (look depth)
          (.object members) = [] ↔
        OnlyFields [("name", IsText), ("namespace", IsText), ("prefix", IsText),
          ("attribute", IsFlag), ("wrapped", IsFlag)] members := by
      rw [only_passed_iff]
      refine forall₂_congr fun entry _ => ?_
      simp only [Entries.get?]
      split_ifs <;> simp [text_passed, flag_passed]
    simp [allFindings, types_object_passed, hfields, IsXml]
  | _ => simp [allFindings, types_object_passed, IsXml]

end Named

theorem texts_iff {items : List Json} :
    (∀ item ∈ items, IsText item) ↔ ∃ names : List String, items = names.map .string := by
  constructor
  · intro h
    induction items with
    | nil => exact ⟨[], rfl⟩
    | cons item rest ih =>
      obtain ⟨text, rfl⟩ := h item List.mem_cons_self
      obtain ⟨names, rfl⟩ := ih fun other hm => h other (List.mem_cons_of_mem _ hm)
      exact ⟨text :: names, rfl⟩
  · rintro ⟨names, rfl⟩ item hm
    obtain ⟨name, _, rfl⟩ := List.mem_map.mp hm
    exact ⟨name, rfl⟩

section Contents

variable {look : String → Json → List Finding} {value : Json}

theorem number_passed : allFindings dialect look SchemaObject.number value = [] ↔
    Content.number.Suits value := by
  cases value <;>
    simp [SchemaObject.number, allFindings, Rule.findings, Dialect.hasType, Content.Suits]

theorem positive_passed : allFindings dialect look Content.positive.rules value = [] ↔
    Content.positive.Suits value := by
  cases value with
  | number n =>
    cases ho : n.order (.integer 0) <;>
      simp [Content.rules, allFindings, Rule.findings, Dialect.hasType, Content.Suits, numberOrder,
        ho]
  | _ => simp [Content.rules, allFindings, Rule.findings, Dialect.hasType, Content.Suits]

/-- Integers are compared as they are. -/
theorem order_integer (first second : Int) :
    Number.order (.integer first) (.integer second) = compare first second := by
  have hone : Int.pow 2 ((0 : Int) - 0).toNat = 1 := rfl
  simp only [Number.order, Number.scaled, hone, Int.mul_one]

theorem count_passed : allFindings dialect look SchemaObject.count value = [] ↔
    Content.count.Suits value := by
  cases value with
  | number n =>
    cases n with
    | integer n =>
      have horder : numberOrder (.number (.integer n)) 0 = some .lt ↔ n < 0 := by
        simp [numberOrder, order_integer, Int.compare_eq_lt]
      have hnat : (∃ m : Nat, n = m) ↔ ¬n < 0 := by
        rw [Int.not_lt]
        exact ⟨fun ⟨m, hm⟩ => hm ▸ Int.natCast_nonneg m, Int.eq_ofNat_of_zero_le⟩
      simp [SchemaObject.count, allFindings, Rule.findings, Dialect.hasType, Content.Suits,
        Json.ofNat, horder, hnat]
    | binary x =>
      simp [SchemaObject.count, allFindings, Rule.findings, Dialect.hasType, Content.Suits,
        Json.ofNat, dialect]
  | _ =>
    simp [SchemaObject.count, allFindings, Rule.findings, Dialect.hasType, Content.Suits,
      Json.ofNat]

theorem choices_passed : allFindings dialect look Content.choices.rules value = [] ↔
    Content.choices.Suits value := by
  cases value with
  | array items =>
    cases items <;> simp [Content.rules, allFindings, Rule.findings, Dialect.hasType, Content.Suits]
  | _ => simp [Content.rules, allFindings, Rule.findings, Dialect.hasType, Content.Suits]

theorem distinctNames_passed : allFindings dialect look Content.distinctNames.rules value = [] ↔
    Content.distinctNames.Suits value := by
  cases value with
  | array items =>
    simp only [Content.rules, allFindings, List.append_eq_nil_iff, items_passed_iff, text_passed,
      texts_iff, Content.Suits, Json.array.injEq]
    constructor
    · rintro ⟨-, ⟨names, rfl⟩, hlength, hdistinct, -⟩
      refine ⟨names, rfl, ?_, ?_⟩
      · rintro rfl
        exact absurd hlength (List.cons_ne_nil _ _)
      · refine hasRepeats_eq_false.mp ?_
        simpa [Rule.findings] using hdistinct
    · rintro ⟨names, rfl, hne, hdistinct⟩
      refine ⟨rfl, ⟨names, rfl⟩, ?_, ?_, trivial⟩
      · simpa [Rule.findings, List.length_pos_iff, Nat.one_le_iff_ne_zero] using hne
      · simp [Rule.findings, hasRepeats_eq_false.mpr hdistinct]
  | _ => simp [Content.rules, allFindings, Rule.findings, Dialect.hasType, Content.Suits]

theorem typeName_passed : allFindings dialect look Content.typeName.rules value = [] ↔
    Content.typeName.Suits value := by
  cases value <;>
    simp [Content.rules, allFindings, Rule.findings, Dialect.hasType, Content.Suits, Json.equal,
      Json.sameBy]

end Contents

section Schemas

variable {depth : Nat} {value : Json}

/-- A boolean passes as itself only, and nothing else passes as one. -/
theorem schemaOrFlag_passed (hd : 0 < depth) :
    allFindings dialect (look depth) Content.schemaOrFlag.rules value = [] ↔
      ∀ inner ∈ Content.schemaOrFlag.schemasIn value, Fits depth inner := by
  obtain ⟨less, rfl⟩ := Nat.exists_eq_add_of_lt hd
  cases value with
  | bool verdict => exact iff_of_true rfl (List.forall_mem_nil _)
  | _ =>
    simp [Content.rules, Content.schemasIn, Fits, schemaOrReference, allFindings, Rule.findings,
      branchesPassed, Dialect.hasType]

theorem Content.passed_iff (content : Content) (hd : 0 < depth) :
    allFindings dialect (look depth) content.rules value = [] ↔
      content.Suits value ∧ ∀ inner ∈ content.schemasIn value, Fits depth inner := by
  obtain ⟨less, rfl⟩ : ∃ less, depth = less + 1 := ⟨depth - 1, by omega⟩
  cases content with
  | anything => simp [rules, allFindings, Suits, schemasIn]
  | text => simp [rules, text_passed, Suits, schemasIn]
  | flag => simp [rules, flag_passed, Suits, schemasIn]
  | number => simp [rules, number_passed, schemasIn]
  | positive => simp [positive_passed, schemasIn]
  | count => simp [rules, count_passed, schemasIn]
  | choices => simp [choices_passed, schemasIn]
  | distinctNames => simp [distinctNames_passed, schemasIn]
  | typeName => simp [typeName_passed, schemasIn]
  | schema => simp [rules, Suits, schemasIn, Fits]
  | schemas =>
    cases value with
    | array items =>
      have htype : (Rule.types [.array]).findings dialect (look (less + 1)) (.array items) = [] := rfl
      simp [rules, schemaList, allFindings, htype, items_passed_iff, Suits, schemasIn, Fits]
    | _ => simp [rules, schemaList, allFindings, Rule.findings, Dialect.hasType, Suits]
  | named =>
    cases value with
    | object members =>
      rw [schemasIn, List.forall_mem_map]
      simp [rules, allFindings, types_object_passed, everyMember_passed_iff, Suits, Fits]
    | _ => simp [rules, allFindings, types_object_passed, Suits]
  | schemaOrFlag => simp [schemaOrFlag_passed hd, Suits]
  | discriminator =>
    simp [rules, allFindings, Rule.findings, discriminator_passed, Suits, schemasIn]
  | documentation =>
    simp [rules, allFindings, Rule.findings, documentation_passed, Suits, schemasIn]
  | xml => simp [rules, allFindings, Rule.findings, xml_passed, Suits, schemasIn]

theorem schema_passed_iff {members : Entries Json} :
    look (depth + 1) "Schema" (.object members) = [] ↔
      (Rule.only keywords).findings dialect (look depth) (.object members) = [] := by
  change allFindings dialect (look depth) [.types [.object], .only keywords] _ = [] ↔ _
  simp [allFindings, types_object_passed]

/-- The key of references is no keyword. -/
theorem not_isReference (h : look (depth + 1) "Schema" value = []) : ¬IsReference value := by
  rintro ⟨target, hg⟩
  cases value with
  | object members =>
    have hmember : ("$ref", .string target) ∈ members := Entries.mem_of_get? hg
    have hknown : isExtension "$ref" = true ∨ (Entries.get? "$ref" keywords).isSome = true :=
      (only_passed_iff.mp (schema_passed_iff.mp h) _ hmember).1
    exact absurd hknown (by decide +kernel)
  | _ => cases hg

/-- What fits is a reference or a schema. -/
theorem fits_iff_isReference :
    Fits (depth + 1) value ↔ IsReference value ∨ look (depth + 1) "Schema" value = [] := by
  rw [fits_iff, ne_eq, reference_passed]
  by_cases hs : look (depth + 1) "Schema" value = []
  · simp [hs, not_isReference hs]
  · simp [hs]

/-- The definition passes an object whose members suit their keywords and hold what fits. -/
theorem look_schema_iff {members : Entries Json} (hd : nesting (.object members) ≤ depth + 1) :
    look (depth + 1) "Schema" (.object members) = [] ↔
      OnlyFields (contents.map fun (key, content) => (key, content.Suits)) members ∧
        ∀ entry ∈ members, ∀ inner ∈ schemasWithin entry, Fits depth inner := by
  rw [schema_passed_iff, only_passed_iff, OnlyFields, ← forall₂_and]
  refine forall₂_congr fun entry hm => ?_
  have hpos : 0 < depth := by
    have hlt : nesting entry.2 < nesting (.object members) := nesting_lt_members hm
    have hone := nesting_pos entry.2
    omega
  rw [keywords_eq, Entries.get?_map, Entries.get?_map, schemasWithin]
  cases contents.get? entry.1 with
  | none => simp
  | some content => simp [content.passed_iff hpos]

theorem Content.nesting_schemasIn {content : Content} {inner : Json}
    (h : inner ∈ content.schemasIn value) : nesting inner ≤ nesting value := by
  cases content with
  | schema => exact Nat.le_of_eq (congrArg nesting (List.mem_singleton.mp h))
  | schemas =>
    cases value with
    | array items => exact Nat.le_of_lt (nesting_lt_items h)
    | _ => cases h
  | named =>
    cases value with
    | object members =>
      obtain ⟨entry, hm, rfl⟩ := List.mem_map.mp h
      exact Nat.le_of_lt (nesting_lt_members hm)
    | _ => cases h
  | schemaOrFlag =>
    cases value with
    | bool verdict => cases h
    | _ => exact Nat.le_of_eq (congrArg nesting (List.mem_singleton.mp h))
  | _ => cases h

theorem nesting_lt_schemasWithin {members : Entries Json} {entry : String × Json} {inner : Json}
    (hm : entry ∈ members) (h : inner ∈ schemasWithin entry) :
    nesting inner < nesting (.object members) := by
  unfold schemasWithin at h
  cases hc : contents.get? entry.1 with
  | none => simp [hc] at h
  | some content =>
    rw [hc] at h
    exact Nat.lt_of_le_of_lt (Content.nesting_schemasIn h) (nesting_lt_members hm)

/-- Wherever the depth covers the value, it does not matter. -/
theorem look_iff_conforms (value : Json) :
    ∀ depth, nesting value ≤ depth → (look depth "Schema" value = [] ↔ Conforms value) := by
  induction value using nesting_induction with
  | step value ih =>
    intro depth hd
    obtain ⟨less, rfl, hless⟩ := depth_of_nesting hd
    cases value with
    | object members =>
      have hinner : ∀ entry ∈ members, ∀ inner ∈ schemasWithin entry,
          (Fits less inner ↔ (¬IsReference inner → Conforms inner)) := by
        intro entry hm inner hi
        have hlt := nesting_lt_schemasWithin hm hi
        obtain ⟨rest, rfl, _⟩ := depth_of_nesting (hless inner hlt)
        rw [fits_iff_isReference, ih inner hlt _ (hless inner hlt), or_iff_not_imp_left]
      rw [look_schema_iff hd]
      constructor
      · rintro ⟨hfields, hfits⟩
        exact .object hfields fun entry hm inner hi => (hinner entry hm inner hi).mp
          (hfits entry hm inner hi)
      · intro h
        cases h with
        | object hfields hwithin =>
          exact ⟨hfields, fun entry hm inner hi => (hinner entry hm inner hi).mpr
            (hwithin entry hm inner hi)⟩
    | _ => exact iff_of_false (List.cons_ne_nil _ _) (fun h => nomatch h)

/-- The check finds nothing exactly if the value is a Schema Object. -/
theorem check_eq_nil_iff {value : Json} : check value = [] ↔ Conforms value :=
  look_iff_conforms value _ (by omega)

end Schemas

end RouteDoc.Schema.SchemaObject
