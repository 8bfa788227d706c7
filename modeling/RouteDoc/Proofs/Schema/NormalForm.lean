import RouteDoc.Document.Conversion
import RouteDoc.Proofs.Schema.PatternFree
import RouteDoc.Proofs.Schema.Visit

namespace RouteDoc.Schema

open Check (mentions)
open Downgrade

/-- Keywords that no lowered schema has, whatever they would hold. -/
def droppedKeys : List String := ["$schema", "$id", "$comment", "const", "examples"]

/-- A value with nothing left to lower at its own keys; only an object has any. -/
structure NormalNode (schema : Json) : Prop where
  dropped : ∀ key ∈ droppedKeys, schema.get? key = none
  id : ∀ text, schema.get? "id" ≠ some (.string text)
  type : ∀ types, schema.get? "type" ≠ some (.array types)
  exclusive : ∀ flag bound, (flag, bound) ∈ sides → ∀ limit, schema.get? flag ≠ some (.number limit)

/-- Nothing is left to lower in any schema. -/
def NormalForm : Json → Prop := Throughout NormalNode

/-- A list of types at the value holds only strings. -/
def NamesTypes (schema : Json) : Prop :=
  ∀ types, schema.get? "type" = some (.array types) → ∀ type ∈ types, type.isString = true

section Nodes

variable {key : String} {schema type after : Json} {members : Entries Json} {types : List Json}

theorem ne_type_of_side : ∀ side ∈ sides, side.1 ≠ "type" := by decide

/-- Where no key but the type stands, only the type has to be looked at. -/
theorem normalNode_of_typed (h : ∀ key, key ≠ "type" → schema.get? key = none)
    (ht : ∀ types, schema.get? "type" ≠ some (.array types)) : NormalNode schema where
  dropped key hk := h key (by rintro rfl; exact absurd hk (by decide))
  id text hg := by simp [h "id"] at hg
  type := ht
  exclusive flag bound hs limit hg := by simp [h flag (ne_type_of_side _ hs)] at hg

theorem not_number_flagged {value : Json} {limit : Number} : flagged value ≠ .number limit := by
  cases value <;> simp [flagged]

/-- The type that stands alone in a list of names is a name. -/
theorem not_list_soleType
    (ht : ∀ types, type = .array types → ∀ type ∈ types, type.isString = true) :
    soleType type ≠ some (.array types) := by
  intro hs
  cases type with
  | array listed =>
    have hstring := ht listed rfl _ (mem_of_soleType hs)
    cases hstring
  | _ => cases hs

/-- The keys of a lowered object are in normal form. -/
theorem normalNode_downgrade {members : Entries Json} (hn : members.keys.Nodup)
    (ht : NamesTypes (.object members)) : NormalNode (downgrade (.object members)) := by
  rw [downgrade]
  refine ⟨?_, ?_, ?_, ?_⟩
  · intro key hk
    change Entries.get? key _ = none
    rw [get?_lowered hn]
    simp only [droppedKeys, List.mem_cons, List.not_mem_nil, or_false] at hk
    rcases hk with rfl | rfl | rfl | rfl | rfl <;> rfl
  · intro text hg
    change Entries.get? "id" _ = _ at hg
    rw [get?_lowered hn] at hg
    obtain ⟨_, hstring⟩ := Option.filter_eq_some_iff.mp hg
    cases hstring
  · intro types hg
    change Entries.get? "type" _ = _ at hg
    rw [get?_type_lowered hn] at hg
    obtain ⟨type, htype, hs⟩ := Option.bind_eq_some_iff.mp hg
    refine not_list_soleType (fun types he => ?_) hs
    exact ht types (he ▸ htype)
  · intro flag bound hs limit hg
    change Entries.get? flag _ = _ at hg
    rw [get?_flag_lowered hn hs] at hg
    obtain ⟨value, _, hf⟩ := Option.map_eq_some_iff.mp hg
    exact not_number_flagged hf

/-- In a normal node no step of the lowering finds anything to do. -/
theorem downgradeNode_of_normal {members : Entries Json} (h : NormalNode (.object members)) :
    downgradeNode members = members := by
  have hnone : ∀ key ∈ droppedKeys, members.get? key = none := h.dropped
  have hid : (members.get? "id").any Json.isString = false := by
    cases hg : members.get? "id" with
    | none => rfl
    | some id =>
      cases id with
      | string text => exact absurd hg (h.id text)
      | _ => rfl
  have hidentity : dropIdentity members = members := by
    rw [dropIdentity, Entries.erase_of_get?_eq_none (hnone "$schema" (by decide)),
      Entries.erase_of_get?_eq_none (hnone "$id" (by decide)),
      Entries.erase_of_get?_eq_none (hnone "$comment" (by decide)), hid]
    rfl
  have hconst : constToEnum members = members := by
    rw [constToEnum, hnone "const" (by decide)]
  have hflag {flag bound : String} (hs : (flag, bound) ∈ sides) :
      flagBound flag bound members = members := by
    unfold flagBound
    split
    · rename_i limit hg
      exact absurd hg (h.exclusive flag bound hs limit)
    · rfl
  have hexample : firstExample members = members := by
    rw [firstExample, hnone "examples" (by decide)]
  rw [downgradeNode, hidentity, hconst, splitTypes_of_not_list h.type, hflag (by decide),
    hflag (by decide), hexample]

end Nodes

section Trees

variable {key : String} {steps : List String} {value type branches : Json}

/-- A branch that only declares a named type is in normal form. -/
theorem normalForm_typed (name : String) : NormalForm (.object [("type", .string name)]) := by
  refine throughout_iff.mpr ⟨normalNode_of_typed (fun key hk => ?_) ?_, fun _ hm => nomatch hm⟩
  · exact if_neg hk.symm
  · intro types hg
    cases hg

/-- The alternatives that a list of names leaves are in normal form. -/
theorem normalForm_alternatives
    (ht : ∀ types, type = .array types → ∀ type ∈ types, type.isString = true)
    (h : alternatives type = some branches) : NormalForm branches := by
  cases type with
  | array types =>
    rw [eq_of_alternatives h]
    have hnode : NormalNode (.array ((concrete types).map typeBranch)) :=
      normalNode_of_typed (fun _ _ => rfl) (fun _ hg => nomatch hg)
    refine throughout_iff.mpr ⟨hnode, ?_⟩
    rintro ⟨steps, branch⟩ hm
    obtain ⟨index, hi, _⟩ := mem_subschemas_array.mp hm
    obtain ⟨type, htype, rfl⟩ := List.mem_map.mp (List.mem_of_getElem? hi)
    have hstring := ht types rfl type (List.mem_filter.mp htype).1
    cases type with
    | string name => exact normalForm_typed name
    | _ => cases hstring
  | _ => cases h

/-- Whatever is lowered is in normal form, if its lists of types hold names. -/
theorem normalForm_downgrade (hd : value.distinct = true) (ht : Throughout NamesTypes value) :
    NormalForm (downgrade value) := by
  induction value using nesting_induction with
  | step value ih =>
    obtain ⟨hnames, hbelow⟩ := throughout_iff.mp ht
    refine throughout_iff.mpr ⟨?_, ?_⟩
    · cases value with
      | object members => exact normalNode_downgrade (Json.distinct_object.mp hd).1 hnames
      | _ => exact normalNode_of_typed (fun _ _ => rfl) (fun _ hg => nomatch hg)
    · rintro ⟨steps, after⟩ hm
      rcases of_subschemas_downgrade hd hm with ⟨schema, hs, rfl⟩ | ⟨type, htype, ha⟩
      · exact ih schema (nesting_subschemas hs) (distinct_subschemas hd hs) (hbelow _ hs)
      · exact normalForm_alternatives (fun types he => hnames types (he ▸ htype)) ha

/-- A slot stays as it is if lowering changes no schema in it. -/
theorem lowerChild_of_fixed {members : Entries Json} (hg : members.get? key = some value)
    (h : ∀ below ∈ subschemas (.object members), downgrade below.2 = below.2) :
    lowerChild key value = value := by
  by_cases hk : key ∈ namedKeys
  · rw [lowerChild_named hk]
    cases value with
    | object schemas =>
      have hsame : (schemas.map fun entry => (entry.1, downgrade entry.2)) = schemas := by
        refine (List.map_congr_left fun entry hm => ?_).trans (List.map_id schemas)
        have hbelow : ([key, entry.1], entry.2) ∈ subschemas (.object members) :=
          mem_subschemas_object.mpr (.inl ⟨key, hk, schemas, entry.1, hg, hm, rfl⟩)
        exact Prod.ext rfl (h _ hbelow)
      rw [downgradeNamed, downgradeEach_eq]
      exact congrArg Json.object hsame
    | _ => rfl
  · by_cases hdirect : key ∈ slotKeys
    · rw [lowerChild_direct hdirect]
      exact h ([key], value) (mem_subschemas_object.mpr (.inr ⟨key, hdirect, hg, rfl⟩))
    · rw [lowerChild, namedSlots_eq, directSlots_eq, if_neg (mt List.contains_iff_mem.mp hk),
        if_neg (mt List.contains_iff_mem.mp hdirect)]

/-- A value in normal form stays as it is, the order of its members included. -/
theorem downgrade_of_normalForm (hd : value.distinct = true) (h : NormalForm value) :
    downgrade value = value := by
  induction value using nesting_induction with
  | step value ih =>
    obtain ⟨hnode, hbelow⟩ := throughout_iff.mp h
    have hsame : ∀ below ∈ subschemas value, downgrade below.2 = below.2 := fun below hm =>
      ih below.2 (nesting_subschemas hm) (distinct_subschemas hd hm) (hbelow below hm)
    cases value with
    | object members =>
      have hn := (Json.distinct_object.mp hd).1
      have hchildren : downgradeChildren members = members := by
        rw [downgradeChildren_eq]
        refine (List.map_congr_left fun entry hm => ?_).trans (List.map_id members)
        exact Prod.ext rfl (lowerChild_of_fixed ((Entries.get?_eq_some_iff hn).mpr hm) hsame)
      rw [downgrade, hchildren, downgradeNode_of_normal hnode]
    | array items =>
      have hitems : items.map downgrade = items := by
        refine (List.map_congr_left fun item hm => ?_).trans (List.map_id items)
        obtain ⟨index, hi⟩ := List.mem_iff_getElem?.mp hm
        exact hsame ([toString index], item) (mem_subschemas_array.mpr ⟨index, hi, rfl⟩)
      rw [downgrade, downgradeItems_eq, hitems]
    | _ => rfl

end Trees

section Distinct

variable {key : String} {value : Json} {members : Entries Json}

theorem distinct_lowerChild (ih : ∀ inner, nesting inner ≤ nesting value →
      inner.distinct = true → (downgrade inner).distinct = true)
    (hd : value.distinct = true) : (lowerChild key value).distinct = true := by
  unfold lowerChild
  split
  · cases value with
    | object schemas =>
      obtain ⟨hn, hvalues⟩ := Json.distinct_object.mp hd
      rw [downgradeNamed, downgradeEach_eq]
      refine Json.distinct_object.mpr ⟨?_, ?_⟩
      · rw [Entries.keys_map fun _ => downgrade]
        exact hn
      · intro entry hm
        obtain ⟨⟨name, schema⟩, hs, rfl⟩ := List.mem_map.mp hm
        exact ih schema (Nat.le_of_lt (nesting_lt_members hs)) (hvalues _ hs)
    | _ => exact hd
  · split
    · exact ih value (Nat.le_refl _) hd
    · exact hd

/-- No member of a lowered object has a key twice if nothing nested in the object gets one by
lowering. -/
theorem distinct_of_origin {after : Json} (ih : ∀ inner, nesting inner < nesting (.object members) →
      inner.distinct = true → (downgrade inner).distinct = true)
    (hd : (Json.object members).distinct = true) (h : Origin members key after) :
    after.distinct = true := by
  cases h with
  | @kept key value _ hg =>
    have hless := nesting_lt_members (Entries.mem_of_get? hg)
    exact distinct_lowerChild (fun inner hle => ih inner (Nat.lt_of_le_of_lt hle hless))
      (Json.distinct_get? hd hg)
  | otherId hg _ => exact Json.distinct_get? hd hg
  | constant hg =>
    exact Json.distinct_array.mpr (List.forall_mem_singleton.mpr (Json.distinct_get? hd hg))
  | @soleType type single hg hs =>
    have htype := Json.distinct_get? hd hg
    cases type with
    | array types => exact Json.distinct_array.mp htype _ (mem_of_soleType hs)
    | _ =>
      cases hs
      exact htype
  | @alternatives type branches hg ha =>
    have htype := Json.distinct_get? hd hg
    have hless := nesting_lt_members (Entries.mem_of_get? hg)
    cases type with
    | array types =>
      rw [eq_of_alternatives ha, Json.distinct_array]
      intro branch hm
      obtain ⟨type, ht, rfl⟩ := List.mem_map.mp hm
      have hmem : type ∈ types := (List.mem_filter.mp ht).1
      rw [← downgrade_typed]
      exact ih _ (Nat.lt_of_le_of_lt (nesting_typed hmem) hless)
        (distinct_typed (Json.distinct_array.mp htype type hmem))
    | _ => cases ha
  | nullable _ _ => rfl
  | limit _ hg _ => exact Json.distinct_get? hd hg
  | bound _ _ hg => exact Json.distinct_get? hd hg
  | @flag flag bound limit _ hg =>
    have hlimit := Json.distinct_get? hd hg
    cases limit <;> exact hlimit
  | firstExample hg hf =>
    obtain ⟨rest, rfl⟩ := eq_of_firstOf hf
    exact Json.distinct_array.mp (Json.distinct_get? hd hg) _ List.mem_cons_self

/-- Lowering gives no object a key twice. -/
theorem distinct_downgrade (hd : value.distinct = true) : (downgrade value).distinct = true := by
  induction value using nesting_induction with
  | step value ih =>
    cases value with
    | object members =>
      have hn := (Json.distinct_object.mp hd).1
      rw [downgrade]
      refine Json.distinct_object.mpr ⟨nodup_downgradeNode (nodup_downgradeChildren hn), ?_⟩
      intro member hm
      exact distinct_of_origin ih hd (Origin.of_mem hn hm)
    | array items =>
      rw [downgrade, downgradeItems_eq, Json.distinct_array]
      intro item hm
      obtain ⟨before, hb, rfl⟩ := List.mem_map.mp hm
      exact ih before (nesting_lt_items hb) (Json.distinct_array.mp hd before hb)
    | _ => rfl

/-- A lowered value has nothing left to lower. -/
theorem downgrade_downgrade (hd : value.distinct = true) (ht : Throughout NamesTypes value) :
    downgrade (downgrade value) = downgrade value :=
  downgrade_of_normalForm (distinct_downgrade hd) (normalForm_downgrade hd ht)

end Distinct

/-- Lowering leaves nothing to lower, keeps what has nothing to lower, and has nothing to do a
second time, alone or after patterns were folded. -/
theorem downgrade_reaches_normalForm (hd : value.distinct = true) :
    (Throughout NamesTypes value → NormalForm (downgrade value)) ∧
      (NormalForm value → downgrade value = value) ∧
      (Throughout NamesTypes value → downgrade (downgrade value) = downgrade value) ∧
      (Throughout NamesTypes (foldPatterns value) →
        Conversion.toDialect (Conversion.toDialect value) = Conversion.toDialect value) := by
  refine ⟨normalForm_downgrade hd, downgrade_of_normalForm hd, ?_, ?_⟩
  · exact downgrade_downgrade hd
  · intro ht
    have hfolded : (foldPatterns value).distinct = true := distinct_foldPatterns value
    have hfree : mentions patternKey (Conversion.toDialect value) = false :=
      mentions_downgrade (by decide) (mentions_pattern_fold value)
    have hsame : foldPatterns (Conversion.toDialect value) = Conversion.toDialect value :=
      foldPatterns_of_patternFree (distinct_downgrade hfolded) hfree
    calc Conversion.toDialect (Conversion.toDialect value)
        = downgrade (Conversion.toDialect value) := congrArg downgrade hsame
      _ = Conversion.toDialect value := downgrade_downgrade hfolded ht

/-- A rate is a number, a text or nothing. -/
def rateSchema : Json := .object [
  ("type", .array [.string "number", .string "string", .string "null"]),
  ("exclusiveMinimum", .ofNat 0),
  ("examples", .array [.ofNat 7])]

/-- Rates stand under a name and under a pattern. -/
def tariffSchema : Json := .object [
  ("$id", .string "tariff"),
  ("type", .array [.string "object", .string "null"]),
  ("patternProperties", .object [("^[a-z]+$", rateSchema)]),
  ("properties", .object [("base", rateSchema)])]

theorem names_rateSchema : Throughout NamesTypes rateSchema := by
  refine throughout_iff.mpr ⟨fun types ht => ?_, fun _ hm => nomatch hm⟩
  cases ht
  decide

theorem names_tariffSchema : Throughout NamesTypes tariffSchema ∧
    Throughout NamesTypes (foldPatterns tariffSchema) := by
  constructor
  · refine throughout_iff.mpr ⟨fun types ht => ?_, ?_⟩
    · cases ht
      decide
    · exact List.forall_mem_singleton.mpr names_rateSchema
  · refine throughout_iff.mpr ⟨fun types ht => ?_, ?_⟩
    · cases ht
      decide
    · refine List.forall_mem_cons.mpr ⟨names_rateSchema, ?_⟩
      exact List.forall_mem_singleton.mpr names_rateSchema

def loweredRate : Json := .object [
  ("minimum", .ofNat 0), ("exclusiveMinimum", .bool true),
  ("anyOf", .array [.object [("type", .string "number")], .object [("type", .string "string")]]),
  ("nullable", .bool true), ("example", .ofNat 7)]

/-- The tariff with rates lowered under the name but not under the pattern, which is no schema's
place. -/
def loweredTariff : Json := .object [
  ("properties", .object [("base", loweredRate)]), ("type", .string "object"),
  ("patternProperties", .object [("^[a-z]+$", rateSchema)]), ("nullable", .bool true)]

def convertedTariff : Json := .object [
  ("properties", .object [("base", loweredRate)]), ("type", .string "object"),
  ("additionalProperties", loweredRate), ("x-pattern", .string "^[a-z]+$"),
  ("nullable", .bool true)]

theorem downgrade_reaches_normalForm_tariff : tariffSchema.distinct = true ∧
    Throughout NamesTypes tariffSchema ∧ Throughout NamesTypes (foldPatterns tariffSchema) ∧
    downgrade tariffSchema = loweredTariff ∧ NormalForm loweredTariff ∧
    downgrade loweredTariff = loweredTariff ∧
    Conversion.toDialect tariffSchema = convertedTariff ∧
    Conversion.toDialect convertedTariff = convertedTariff := by
  have hd : tariffSchema.distinct = true := by decide
  have hlowered : downgrade tariffSchema = loweredTariff := rfl
  have hconverted : Conversion.toDialect tariffSchema = convertedTariff := rfl
  obtain ⟨hnames, hfolded⟩ := names_tariffSchema
  obtain ⟨hnormal, _, hagain, hboth⟩ := downgrade_reaches_normalForm hd
  rw [hlowered] at hnormal hagain
  rw [hconverted] at hboth
  exact ⟨hd, hnames, hfolded, hlowered, hnormal hnames, hagain hnames, hconverted, hboth hfolded⟩

end RouteDoc.Schema
