import RouteDoc.Proofs.Schema.Keys
import RouteDoc.Proofs.Schema.Visit

namespace RouteDoc.Schema

open Downgrade

/-- Keywords that have a rule of their own in lowering, and those in which schemas are lowered. -/
def loweredKeys : List String :=
  ["$schema", "$id", "$comment", "id", "const", "enum", "type", "anyOf", "nullable", "minimum",
    "maximum", "exclusiveMinimum", "exclusiveMaximum", "examples", "example"] ++
    namedKeys ++ slotKeys

/-- The names that an object declares under a keyword. -/
def namesUnder (key : String) (members : Entries Json) : List String :=
  Entries.keys (Json.entriesAt key (.object members))

/-- Lowering goes from a value into one that it treats as a schema or makes of a list of types on
its way. The path leads there in the lowered value. -/
inductive Enters : Json → List String → Json → Prop
  | stands {value inner : Json} {path : List String} : Visits value path inner →
      Enters value path inner
  | made {value branches type inner : Json} {members : Entries Json} {types : List Json}
      {path steps : List String} {index : Nat} : Visits value path (.object members) →
      members.get? "anyOf" = none → members.get? "type" = some (.array types) →
      alternatives (.array types) = some branches → (concrete types)[index]? = some type →
      Enters (.object [("type", type)]) steps inner →
      Enters value (path ++ "anyOf" :: toString index :: steps) inner

section Places

variable {value inner deeper branches type : Json} {members : Entries Json} {types : List Json}
  {path steps : List String} {index : Nat}

theorem Visits.append (h : Visits value path inner) (hd : Visits inner steps deeper) :
    Visits value (path ++ steps) deeper := by
  induction h with
  | here value => exact hd
  | into hm _ ih =>
    rw [List.append_assoc]
    exact .into hm (ih hd)

/-- An alternative made for a type is lowered where it is put. -/
theorem visits_alternative (hn : members.keys.Nodup) (hnone : members.get? "anyOf" = none)
    (ht : members.get? "type" = some (.array types))
    (ha : alternatives (.array types) = some branches) (hi : (concrete types)[index]? = some type) :
    Visits (downgrade (.object members)) ["anyOf", toString index]
      (downgrade (.object [("type", type)])) := by
  have hg : (downgradeNode (downgradeChildren members)).get? "anyOf" = some branches := by
    rw [get?_slot_lowered hn (by decide), hnone, ht]
    exact ha
  rw [eq_of_alternatives ha] at hg
  have hbranch : ((concrete types).map typeBranch)[index]? = some (typeBranch type) := by
    rw [List.getElem?_map, hi, Option.map_some]
  rw [downgrade, downgrade_typed]
  exact .into (mem_subschemas_object.mpr (.inr ⟨"anyOf", by decide, hg, rfl⟩))
    (.into (mem_subschemas_array.mpr ⟨index, hbranch, rfl⟩) (.here _))

theorem Enters.distinct (h : Enters value path inner) (hd : value.distinct = true) :
    inner.distinct = true := by
  induction h with
  | stands hv => exact hv.distinct hd
  | made hv _ ht _ hi _ ih =>
    have htypes := Json.distinct_get? (hv.distinct hd) ht
    have hmem := (List.mem_filter.mp (List.mem_of_getElem? hi)).1
    exact ih (distinct_typed (Json.distinct_array.mp htypes _ hmem))

/-- Whatever lowering goes into stands lowered in the lowered value. -/
theorem Enters.downgrade (h : Enters value path inner) (hd : value.distinct = true) :
    Visits (downgrade value) path (downgrade inner) := by
  induction h with
  | stands hv => exact hv.downgrade hd
  | made hv hnone ht ha hi _ ih =>
    have hmembers := hv.distinct hd
    have htypes := Json.distinct_get? hmembers ht
    have hmem := (List.mem_filter.mp (List.mem_of_getElem? hi)).1
    have hbelow := ih (distinct_typed (Json.distinct_array.mp htypes _ hmem))
    have hmade := visits_alternative (Json.distinct_object.mp hmembers).1 hnone ht ha hi
    exact (hv.downgrade hd).append (hmade.append hbelow)

end Places

section Node

variable {key : String} {value : Json} {members : Entries Json}

theorem lowered_of_not_mem (hk : key ∉ loweredKeys) : lowered members key = members.get? key := by
  unfold lowered
  split
  case h_16 => rfl
  all_goals exact absurd (by decide) hk

/-- A keyword without a rule keeps its value. -/
theorem get?_lowered_of_not_mem (hn : members.keys.Nodup) (hk : key ∉ loweredKeys) :
    (downgradeNode (downgradeChildren members)).get? key = members.get? key := by
  rw [get?_lowered hn, lowered_of_not_mem hk]
  apply get?_children_of_plain
  · refine Bool.eq_false_iff.mpr fun hc => hk ?_
    exact List.mem_append_left _ (List.mem_append_right _ (List.contains_iff_mem.mp hc))
  · refine Bool.eq_false_iff.mpr fun hc => hk ?_
    exact List.mem_append_right _ (List.contains_iff_mem.mp hc)

theorem namesUnder_eq (key : String) (members : Entries Json) : namesUnder key members =
    (((members.get? key).bind Json.asObject?).map Entries.keys).getD [] := by
  rw [namesUnder, Json.entriesAt, Json.get?]
  cases (members.get? key).bind Json.asObject? <;> rfl

/-- Declared names stay, in their order. -/
theorem namesUnder_lowered (hn : members.keys.Nodup) (hk : key ∈ namedKeys) :
    namesUnder key (downgradeNode (downgradeChildren members)) = namesUnder key members := by
  have hnot : key ≠ "anyOf" := by
    rintro rfl
    exact absurd hk (by decide)
  rw [namesUnder_eq, namesUnder_eq, get?_slot_lowered hn (List.mem_append_left slotKeys hk),
    if_neg hnot, Option.or_none]
  cases members.get? key with
  | none => rfl
  | some value =>
    rw [Option.map_some, lowerChild_named hk]
    cases value with
    | object schemas =>
      rw [downgradeNamed, downgradeEach_eq]
      exact Entries.keys_map (fun _ => downgrade) schemas
    | _ => rfl

/-- Choices and an example that stand are kept against those that lowering would write. -/
theorem get?_lowered_data (hn : members.keys.Nodup) (hk : key ∈ ["enum", "example"])
    (hg : members.get? key = some value) :
    (downgradeNode (downgradeChildren members)).get? key = some value := by
  rw [get?_lowered hn]
  simp only [List.mem_cons, List.not_mem_nil, or_false] at hk
  rcases hk with rfl | rfl
  all_goals
    have hplain := (get?_children_of_plain rfl rfl).trans hg
    exact Option.or_eq_some_iff.mpr (.inl hplain)

/-- A key of a lowered object stood there before, or is one that lowering writes. -/
theorem keys_lowered (hn : members.keys.Nodup)
    (h : key ∈ (downgradeNode (downgradeChildren members)).keys) :
    key ∈ members.keys ∨ key ∈ writtenKeys := by
  obtain ⟨⟨name, value⟩, hm, rfl⟩ := List.mem_map.mp h
  change name ∈ members.keys ∨ name ∈ writtenKeys
  have hsides : ∀ side ∈ sides, side.1 ∈ writtenKeys ∧ side.2 ∈ writtenKeys := by decide
  have hstood {found : Json} (hg : members.get? name = some found) : name ∈ members.keys :=
    Entries.mem_keys_of_mem (Entries.mem_of_get? hg)
  cases Origin.of_mem hn hm with
  | kept _ hg => exact .inl (hstood hg)
  | otherId hg _ => exact .inl (hstood hg)
  | constant _ => exact .inr (by decide)
  | soleType hg _ => exact .inl (hstood hg)
  | alternatives _ _ => exact .inr (by decide)
  | nullable _ _ => exact .inr (by decide)
  | limit hs _ _ => exact .inr (hsides _ hs).2
  | bound hs _ _ => exact .inr (hsides _ hs).2
  | flag hs _ => exact .inr (hsides _ hs).1
  | firstExample _ _ => exact .inr (by decide)

end Node

/-- Wherever lowering goes, the declared names stay in their order, keywords without a rule and data
that stand keep their values, and no other keys come in than those that lowering writes. -/
theorem frame_downgrade {value : Json} {path : List String} {members : Entries Json}
    (hd : value.distinct = true) (h : Enters value path (.object members)) :
    ∃ after : Entries Json, downgrade (.object members) = .object after ∧
      Visits (downgrade value) path (.object after) ∧
      (∀ key ∈ namedKeys, namesUnder key after = namesUnder key members) ∧
      (∀ key, key ∉ loweredKeys → after.get? key = members.get? key) ∧
      (∀ key ∈ ["enum", "example"], ∀ data, members.get? key = some data →
        after.get? key = some data) ∧
      ∀ key ∈ after.keys, key ∈ members.keys ∨ key ∈ writtenKeys := by
  have hn := (Json.distinct_object.mp (h.distinct hd)).1
  refine ⟨downgradeNode (downgradeChildren members), rfl, h.downgrade hd, ?_, ?_, ?_, ?_⟩
  · intro key hk
    exact namesUnder_lowered hn hk
  · intro key hk
    exact get?_lowered_of_not_mem hn hk
  · intro key hk data hg
    exact get?_lowered_data hn hk hg
  · intro key hk
    exact keys_lowered hn hk

/-- Names that spell keywords, and data that do so, in a schema with keywords to drop. -/
def lineSchema : Entries Json := [
  ("$comment", .string "one line"),
  ("properties", .object [("id", .object [("const", .ofNat 1)]), ("$comment", .object [])]),
  ("const", .object []),
  ("default", .object [("$id", .string "x"), ("const", .ofNat 2)]),
  ("enum", .array [.object [("const", .ofNat 3)]])]

def orderLines : Json := .object [
  ("$schema", .string "draft-07"),
  ("definitions", .object [("line", .object lineSchema)])]

theorem frame_downgrade_lines : orderLines.distinct = true ∧
    Enters orderLines ["definitions", "line"] (.object lineSchema) ∧
    ∃ after : Entries Json, downgrade (.object lineSchema) = .object after ∧
      Visits (downgrade orderLines) ["definitions", "line"] (.object after) ∧
      (∀ key ∈ namedKeys, namesUnder key after = namesUnder key lineSchema) ∧
      (∀ key, key ∉ loweredKeys → after.get? key = lineSchema.get? key) ∧
      (∀ key ∈ ["enum", "example"], ∀ data, lineSchema.get? key = some data →
        after.get? key = some data) ∧
      ∀ key ∈ after.keys, key ∈ lineSchema.keys ∨ key ∈ writtenKeys := by
  have hd : orderLines.distinct = true := by decide
  have hline : (["definitions", "line"], .object lineSchema) ∈ subschemas orderLines :=
    List.mem_cons_self
  have hvisits : Visits orderLines ["definitions", "line"] (.object lineSchema) :=
    .into hline (.here _)
  exact ⟨hd, .stands hvisits, frame_downgrade hd (.stands hvisits)⟩

end RouteDoc.Schema
