import RouteDoc.Proofs.Json.Distinct
import RouteDoc.Proofs.Schema.Lowering
import RouteDoc.Proofs.Schema.Position
import RouteDoc.Proofs.Schema.Rule

namespace RouteDoc.Schema

open Downgrade

/-- The schemas that lowering goes into from a value, each with the steps that lead to it. -/
def subschemas : Json → List (List String × Json)
  | .object members =>
    namedKeys.flatMap (fun key => (Json.entriesAt key (.object members)).map fun (name, schema) =>
      ([key, name], schema)) ++
    slotKeys.flatMap fun key =>
      (Entries.get? key members).toList.map fun schema => ([key], schema)
  | .array items => items.zipIdx.map fun (item, index) => ([toString index], item)
  | _ => []

/-- The path leads from a value to one that lowering treats as a schema. -/
inductive Visits : Json → List String → Json → Prop
  | here (value : Json) : Visits value [] value
  | into {value schema inner : Json} {steps path : List String} :
      (steps, schema) ∈ subschemas value → Visits schema path inner →
      Visits value (steps ++ path) inner

/-- Every value that lowering treats as a schema has the property. -/
def Throughout (P : Json → Prop) (value : Json) : Prop :=
  ∀ path inner, Visits value path inner → P inner

section Subschemas

variable {key : String} {steps : List String} {value schema : Json} {members : Entries Json}
  {items : List Json}

theorem mem_subschemas_object : (steps, schema) ∈ subschemas (.object members) ↔
    (∃ key ∈ namedKeys, ∃ schemas name, members.get? key = some (.object schemas) ∧
      (name, schema) ∈ schemas ∧ steps = [key, name]) ∨
    ∃ key ∈ slotKeys, members.get? key = some schema ∧ steps = [key] := by
  rw [subschemas, List.mem_append, List.mem_flatMap, List.mem_flatMap]
  refine or_congr ?_ ?_
  · refine exists_congr fun key => and_congr_right fun _ => ?_
    rw [List.mem_map]
    constructor
    · rintro ⟨⟨name, found⟩, hm, he⟩
      obtain ⟨rfl, rfl⟩ := Prod.mk.inj he
      obtain ⟨schemas, hg, hm⟩ := Json.mem_entriesAt_iff.mp hm
      exact ⟨schemas, name, hg, hm, rfl⟩
    · rintro ⟨schemas, name, hg, hm, rfl⟩
      exact ⟨(name, schema), Json.mem_entriesAt_iff.mpr ⟨schemas, hg, hm⟩, rfl⟩
  · refine exists_congr fun key => and_congr_right fun _ => ?_
    simp only [List.mem_map, Option.mem_toList, Prod.mk.injEq]
    constructor
    · rintro ⟨found, hg, rfl, rfl⟩
      exact ⟨hg, rfl⟩
    · rintro ⟨hg, rfl⟩
      exact ⟨schema, hg, rfl, rfl⟩

theorem mem_subschemas_array : (steps, schema) ∈ subschemas (.array items) ↔
    ∃ index : Nat, items[index]? = some schema ∧ steps = [toString index] := by
  rw [subschemas, List.mem_map]
  constructor
  · rintro ⟨⟨item, index⟩, hm, he⟩
    obtain ⟨rfl, rfl⟩ := Prod.mk.inj he
    exact ⟨index, List.mem_zipIdx_iff_getElem?.mp hm, rfl⟩
  · rintro ⟨index, hi, rfl⟩
    exact ⟨(schema, index), List.mem_zipIdx_iff_getElem?.mpr hi, rfl⟩

theorem nesting_subschemas (h : (steps, schema) ∈ subschemas value) :
    nesting schema < nesting value := by
  cases value with
  | object members =>
    rcases mem_subschemas_object.mp h with ⟨key, _, schemas, name, hg, hm, _⟩ | ⟨key, _, hg, _⟩
    · have hschemas := nesting_lt_members (Entries.mem_of_get? hg)
      exact Nat.lt_trans (nesting_lt_members hm) hschemas
    · exact nesting_lt_members (Entries.mem_of_get? hg)
  | array items =>
    obtain ⟨index, hi, _⟩ := mem_subschemas_array.mp h
    exact nesting_lt_items (List.mem_of_getElem? hi)
  | _ => cases h

theorem distinct_subschemas (hd : value.distinct = true) (h : (steps, schema) ∈ subschemas value) :
    schema.distinct = true := by
  cases value with
  | object members =>
    rcases mem_subschemas_object.mp h with ⟨key, _, schemas, name, hg, hm, _⟩ | ⟨key, _, hg, _⟩
    · exact (Json.distinct_object.mp (Json.distinct_get? hd hg)).2 _ hm
    · exact Json.distinct_get? hd hg
  | array items =>
    obtain ⟨index, hi, _⟩ := mem_subschemas_array.mp h
    exact Json.distinct_array.mp hd _ (List.mem_of_getElem? hi)
  | _ => cases h

theorem nesting_typed {type : Json} {types : List Json} (h : type ∈ types) :
    nesting (.object [("type", type)]) ≤ nesting (.array types) := by
  have hless := nesting_lt_items h
  have hpos := nesting_pos type
  simp only [nesting, nestingOfMembers] at hless ⊢
  omega

theorem distinct_typed {type : Json} (hd : type.distinct = true) :
    (Json.object [("type", type)]).distinct = true :=
  Json.distinct_object.mpr ⟨List.nodup_singleton "type", List.forall_mem_singleton.mpr hd⟩

/-- To look at every schema in a value, look at the value and at every schema in those below it. -/
theorem throughout_iff {P : Json → Prop} : Throughout P value ↔
    P value ∧ ∀ below ∈ subschemas value, Throughout P below.2 := by
  constructor
  · intro h
    refine ⟨h [] value (.here value), ?_⟩
    rintro ⟨steps, schema⟩ hm path inner hv
    exact h (steps ++ path) inner (.into hm hv)
  · rintro ⟨hself, hbelow⟩ path inner hv
    cases hv with
    | here => exact hself
    | @into _ schema _ steps path hm hv => exact hbelow (steps, schema) hm path inner hv

end Subschemas

section Lowering

variable {key : String} {path steps : List String} {value schema inner after : Json}
  {members : Entries Json}

theorem namedSlots_eq : namedSlots = namedKeys := rfl

theorem directSlots_eq : directSlots = slotKeys := rfl

theorem lowerChild_named (hk : key ∈ namedKeys) : lowerChild key value = downgradeNamed value :=
  if_pos (List.contains_iff_mem.mpr hk)

theorem not_named_of_slot : ∀ key ∈ slotKeys, namedKeys.contains key = false := by decide

theorem lowerChild_direct (hk : key ∈ slotKeys) : lowerChild key value = downgrade value := by
  rw [lowerChild, namedSlots_eq, directSlots_eq, not_named_of_slot key hk,
    List.contains_iff_mem.mpr hk]
  rfl

/-- A slot holds what it held, lowered, or the alternatives that a list of types leaves. -/
theorem get?_slot_lowered {members : Entries Json} (hn : members.keys.Nodup)
    (hk : key ∈ namedKeys ++ slotKeys) :
    (downgradeNode (downgradeChildren members)).get? key =
      ((members.get? key).map (lowerChild key)).or
        (if key = "anyOf" then (members.get? "type").bind alternatives else none) := by
  have htype : (downgradeChildren members).get? "type" = members.get? "type" :=
    get?_children_of_plain rfl rfl
  rw [get?_lowered hn, ← get?_downgradeChildren, ← htype]
  simp only [namedKeys, slotKeys, List.cons_append, List.nil_append, List.mem_cons,
    List.not_mem_nil, or_false] at hk
  rcases hk with rfl | rfl | rfl | rfl | rfl | rfl | rfl | rfl
  all_goals first | rfl | exact (Option.or_none).symm

theorem get?_slot_of_some (hn : members.keys.Nodup) (hk : key ∈ namedKeys ++ slotKeys)
    (hg : members.get? key = some value) :
    (downgradeNode (downgradeChildren members)).get? key = some (lowerChild key value) := by
  rw [get?_slot_lowered hn hk, hg, Option.map_some, Option.some_or]

/-- Every schema in a value is lowered where it stands. -/
theorem subschemas_downgrade (hd : value.distinct = true) (h : (steps, schema) ∈ subschemas value) :
    (steps, downgrade schema) ∈ subschemas (downgrade value) := by
  cases value with
  | object members =>
    have hn := (Json.distinct_object.mp hd).1
    rw [downgrade]
    apply mem_subschemas_object.mpr
    rcases mem_subschemas_object.mp h with
      ⟨key, hk, schemas, name, hg, hm, rfl⟩ | ⟨key, hk, hg, rfl⟩
    · have hafter := get?_slot_of_some hn (List.mem_append_left slotKeys hk) hg
      rw [lowerChild_named hk, downgradeNamed, downgradeEach_eq] at hafter
      have hname : (name, downgrade schema) ∈
          schemas.map fun (name, schema) => (name, downgrade schema) :=
        List.mem_map.mpr ⟨(name, schema), hm, rfl⟩
      exact .inl ⟨key, hk, _, name, hafter, hname, rfl⟩
    · have hafter := get?_slot_of_some hn (List.mem_append_right namedKeys hk) hg
      rw [lowerChild_direct hk] at hafter
      exact .inr ⟨key, hk, hafter, rfl⟩
  | array items =>
    obtain ⟨index, hi, rfl⟩ := mem_subschemas_array.mp h
    rw [downgrade, downgradeItems_eq]
    apply mem_subschemas_array.mpr
    refine ⟨index, ?_, rfl⟩
    rw [List.getElem?_map, hi, Option.map_some]
  | _ => cases h

/-- What stands for a schema in a lowered value was lowered there, or it is the list of alternatives
for several types. -/
theorem of_subschemas_downgrade (hd : value.distinct = true)
    (h : (steps, after) ∈ subschemas (downgrade value)) :
    (∃ schema, (steps, schema) ∈ subschemas value ∧ after = downgrade schema) ∨
      ∃ type, value.get? "type" = some type ∧ alternatives type = some after := by
  cases value with
  | object members =>
    have hn := (Json.distinct_object.mp hd).1
    rw [downgrade] at h
    rcases mem_subschemas_object.mp h with
      ⟨key, hk, schemas, name, hg, hm, rfl⟩ | ⟨key, hk, hg, rfl⟩
    · have hnot : key ≠ "anyOf" := by
        rintro rfl
        exact absurd hk (by decide)
      rw [get?_slot_lowered hn (List.mem_append_left slotKeys hk), if_neg hnot, Option.or_none]
        at hg
      obtain ⟨found, hf, hl⟩ := Option.map_eq_some_iff.mp hg
      rw [lowerChild_named hk] at hl
      cases found with
      | object before =>
        rw [downgradeNamed, downgradeEach_eq] at hl
        obtain ⟨⟨name, schema⟩, hs, he⟩ := List.mem_map.mp (Json.object.inj hl ▸ hm)
        obtain ⟨rfl, rfl⟩ := Prod.mk.inj he
        have hbefore : ([key, name], schema) ∈ subschemas (.object members) :=
          mem_subschemas_object.mpr (.inl ⟨key, hk, before, name, hf, hs, rfl⟩)
        exact .inl ⟨schema, hbefore, rfl⟩
      | _ => cases hl
    · rw [get?_slot_lowered hn (List.mem_append_right namedKeys hk)] at hg
      rcases Option.or_eq_some_iff.mp hg with hl | ⟨_, hx⟩
      · obtain ⟨schema, hf, rfl⟩ := Option.map_eq_some_iff.mp hl
        rw [lowerChild_direct hk]
        exact .inl ⟨schema, mem_subschemas_object.mpr (.inr ⟨key, hk, hf, rfl⟩), rfl⟩
      · split at hx
        · exact .inr (Option.bind_eq_some_iff.mp hx)
        · cases hx
  | array items =>
    rw [downgrade, downgradeItems_eq] at h
    obtain ⟨index, hi, rfl⟩ := mem_subschemas_array.mp h
    rw [List.getElem?_map] at hi
    obtain ⟨item, hitem, rfl⟩ := Option.map_eq_some_iff.mp hi
    exact .inl ⟨item, mem_subschemas_array.mpr ⟨index, hitem, rfl⟩, rfl⟩
  | _ => cases h

theorem Visits.distinct (h : Visits value path inner) (hd : value.distinct = true) :
    inner.distinct = true := by
  induction h with
  | here value => exact hd
  | into hm _ ih => exact ih (distinct_subschemas hd hm)

/-- Lowering keeps every schema in its place. -/
theorem Visits.downgrade (h : Visits value path inner) (hd : value.distinct = true) :
    Visits (downgrade value) path (downgrade inner) := by
  induction h with
  | here value => exact .here _
  | into hm _ ih => exact .into (subschemas_downgrade hd hm) (ih (distinct_subschemas hd hm))

end Lowering

end RouteDoc.Schema
