import RouteDoc.Proofs.Json.Path
import RouteDoc.Proofs.Schema.PatternFree

namespace RouteDoc.Schema

open Check (mentions)

/-- Keywords whose members are schemas by name. -/
def namedKeys : List String := ["properties", "definitions"]

/-- Keywords that hold a schema or a list of schemas. -/
def slotKeys : List String := ["items", "not", "additionalProperties", "oneOf", "anyOf", "allOf"]

/-- The path leads from a schema to one that stands in it: through names of schemas that are free,
and through keywords that hold a schema or a list of schemas. The keyword for additional properties
counts where patterns do not stand beside it. -/
inductive Position (free : Entries Json → String → Prop) : Json → List String → Json → Prop
  | here (schema : Json) : Position free schema [] schema
  | named {members schemas : Entries Json} {key name : String} {schema inner : Json}
      {path : List String} : key ∈ namedKeys → members.get? key = some (.object schemas) →
      schemas.get? name = some schema → free schemas name → Position free schema path inner →
      Position free (.object members) (key :: name :: path) inner
  | slot {members : Entries Json} {key : String} {schema inner : Json} {path : List String} :
      key ∈ slotKeys → members.get? key = some schema →
      (key = additionalKey → patternKey ∉ members.keys) → Position free schema path inner →
      Position free (.object members) (key :: path) inner
  | item {items : List Json} {index : Nat} {schema inner : Json} {path : List String} :
      items[index]? = some schema → Position free schema path inner →
      Position free (.array items) (toString index :: path) inner

/-- The names of the properties that an object declares. -/
def propertyNames (members : Entries Json) : List String :=
  match members.get? "properties" with
  | some (.object properties) => Entries.keys properties
  | _ => []

/-- Keywords that hold data. -/
def dataKeys : List String := ["enum", "const", "default", "example", "examples"]

/-- The name is none that folding gives a meaning of its own among these names. -/
def Spared (members : Entries Json) (name : String) : Prop :=
  name ≠ patternKey ∧ (patternKey ∈ members.keys → name ≠ additionalKey ∧ name ≠ patternNote)

section Members

variable {key : String} {value schema : Json} {members rest folded : Entries Json}

theorem get?_offer (hk : key ≠ additionalKey) :
    (offer folded value).get? key = folded.get? key := by
  unfold offer
  split
  · rfl
  · exact Entries.get?_insert_of_ne value folded hk.symm

/-- Under a key that is not its own, folding leaves the folded value. -/
theorem get?_foldMembers_of_ne (hn : rest.keys.Nodup) (ha : key ≠ additionalKey)
    (hp : key ≠ patternKey) (hx : key ≠ patternNote) : (foldMembers folded rest).get? key =
      ((rest.get? key).map foldPatterns).or (folded.get? key) := by
  induction rest generalizing folded with
  | nil => rfl
  | cons entry rest ih =>
    obtain ⟨name, value⟩ := entry
    obtain ⟨hname, hrest⟩ := List.nodup_cons.mp hn
    have hskip (hne : name ≠ key) : Entries.get? key ((name, value) :: rest) = Entries.get? key rest :=
      if_neg hne
    by_cases hna : name = additionalKey
    · subst hna
      rw [foldMembers_additional, ih hrest, get?_offer ha, hskip ha.symm]
    by_cases hnp : name = patternKey
    · subst hnp
      rw [hskip hp.symm]
      by_cases hpatterns : ∃ first others, value = .object (first :: others)
      · obtain ⟨⟨pattern, schema⟩, others, rfl⟩ := hpatterns
        rw [foldMembers_pattern, ih hrest, Entries.get?_insert_of_ne _ _ hx.symm, get?_offer ha]
      · simp only [not_exists] at hpatterns
        rw [foldMembers_noPattern hpatterns, ih hrest]
    rw [foldMembers_plain hna hnp, ih hrest]
    by_cases hkey : name = key
    · subst hkey
      have hnone : Entries.get? name rest = none := Entries.get?_eq_none_iff.mpr hname
      simp [Entries.get?, hnone, Entries.get?_insert_self]
    · rw [hskip hkey, Entries.get?_insert_of_ne _ _ hkey]

/-- Under a spared key stands the folded value of that key. -/
theorem get?_foldMembers (hn : members.keys.Nodup) (hk : Spared members key) :
    (foldMembers [] members).get? key = (members.get? key).map foldPatterns := by
  by_cases hp : patternKey ∈ members.keys
  · obtain ⟨ha, hx⟩ := hk.2 hp
    rw [get?_foldMembers_of_ne hn ha hk.1 hx]
    exact Option.or_none
  · have hfolded : foldMembers [] members = [] ++ _ := foldMembers_eq hn hp
    rw [hfolded, List.nil_append, Entries.get?_map]

theorem pattern_not_mem_fold : patternKey ∉ Entries.keys (foldMembers [] members) := by
  have hlacks : Lacks patternKey (foldMembers [] members) :=
    lacks_iff.mpr (mentions_pattern_fold (.object members))
  intro hm
  obtain ⟨entry, he, hkey⟩ := List.mem_map.mp hm
  exact (hlacks entry he).1 hkey

/-- Names keep their order unless one of them is that of the keyword for patterns. -/
theorem keys_foldMembers_iff (hn : members.keys.Nodup) :
    Entries.keys (foldMembers [] members) = members.keys ↔ patternKey ∉ members.keys := by
  refine ⟨fun hsame => hsame ▸ pattern_not_mem_fold, fun hp => ?_⟩
  have hfolded : foldMembers [] members = [] ++ _ := foldMembers_eq hn hp
  rw [hfolded, List.nil_append]
  exact Entries.keys_map (fun _ => foldPatterns) members

theorem ordinary_keys : ∀ key ∈ namedKeys ++ dataKeys,
    key ≠ patternKey ∧ key ≠ additionalKey ∧ key ≠ patternNote := by decide

theorem spared_ordinary (hk : key ∈ namedKeys ++ dataKeys) : Spared members key :=
  ⟨(ordinary_keys key hk).1, fun _ => (ordinary_keys key hk).2⟩

theorem direct_keys : ∀ key ∈ slotKeys, key ≠ patternKey ∧ key ≠ patternNote := by decide

theorem spared_direct (hk : key ∈ slotKeys)
    (ha : key = additionalKey → patternKey ∉ members.keys) : Spared members key :=
  ⟨(direct_keys key hk).1, fun hp => ⟨fun he => ha he hp, (direct_keys key hk).2⟩⟩

end Members

section Positions

variable {path : List String} {value schema inner : Json} {members : Entries Json}

theorem Position.distinct {free : Entries Json → String → Prop} (h : Position free value path inner)
    (hd : value.distinct = true) : inner.distinct = true := by
  induction h with
  | here schema => exact hd
  | named _ hg hs _ _ ih => exact ih (Json.distinct_get? (Json.distinct_get? hd hg) hs)
  | slot _ hg _ _ ih => exact ih (Json.distinct_get? hd hg)
  | item hi _ ih => exact ih (Json.distinct_array.mp hd _ (List.mem_of_getElem? hi))

/-- Folding keeps every schema in its place. -/
theorem Position.fold (h : Position Spared value path inner) (hd : value.distinct = true) :
    Position Spared (foldPatterns value) path (foldPatterns inner) := by
  induction h with
  | here schema => exact .here _
  | @named members schemas key name schema inner path hk hg hs hfree _ ih =>
    have hmap : (Json.object schemas).distinct = true := Json.distinct_get? hd hg
    have hkey := get?_foldMembers (Json.distinct_object.mp hd).1
      (spared_ordinary (List.mem_append_left dataKeys hk))
    have hname := get?_foldMembers (Json.distinct_object.mp hmap).1 hfree
    rw [hg, Option.map_some, foldPatterns] at hkey
    rw [hs, Option.map_some] at hname
    have hspared : Spared (foldMembers [] schemas) name :=
      ⟨hfree.1, fun hp => absurd hp pattern_not_mem_fold⟩
    rw [foldPatterns]
    exact .named hk hkey hname hspared (ih (Json.distinct_get? hmap hs))
  | @slot members key schema inner path hk hg ha _ ih =>
    have hkey := get?_foldMembers (Json.distinct_object.mp hd).1 (spared_direct hk ha)
    rw [hg, Option.map_some] at hkey
    rw [foldPatterns]
    exact .slot hk hkey (fun _ => pattern_not_mem_fold) (ih (Json.distinct_get? hd hg))
  | @item items index schema inner path hi _ ih =>
    have hitem : (items.map foldPatterns)[index]? = some (foldPatterns schema) := by
      rw [List.getElem?_map, hi, Option.map_some]
    rw [foldPatterns, foldItems_eq]
    exact .item hitem (ih (Json.distinct_array.mp hd _ (List.mem_of_getElem? hi)))

end Positions

section Frame

variable {key : String} {path : List String} {value : Json} {members : Entries Json}

/-- The declared names stay, in their order, exactly if the keyword for patterns is none of them. -/
theorem propertyNames_fold_iff (hd : (Json.object members).distinct = true) :
    propertyNames (foldMembers [] members) = propertyNames members ↔
      patternKey ∉ propertyNames members := by
  have hafter := get?_foldMembers (Json.distinct_object.mp hd).1
    (spared_ordinary (show "properties" ∈ namedKeys ++ dataKeys by decide))
  unfold propertyNames
  rw [hafter]
  cases hg : members.get? "properties" with
  | none => simp
  | some found =>
    cases found with
    | object schemas =>
      exact keys_foldMembers_iff (Json.distinct_object.mp (Json.distinct_get? hd hg)).1
    | _ => simp [foldPatterns]

/-- Data stay as they are exactly if they do not mention the keyword for patterns. -/
theorem data_fold_iff (hd : (Json.object members).distinct = true) (hk : key ∈ dataKeys) :
    (foldMembers [] members).get? key = members.get? key ↔
      ∀ data, members.get? key = some data → mentions patternKey data = false := by
  rw [get?_foldMembers (Json.distinct_object.mp hd).1
    (spared_ordinary (List.mem_append_right namedKeys hk))]
  cases hg : members.get? key with
  | none => simp
  | some data => simp [(foldPatterns_fixed (Json.distinct_get? hd hg)).2.1]

/-- At every place of a schema, folding keeps the names of properties in their order and the data
as they are, unless a name, or a key within the data, is the keyword for patterns. -/
theorem frame_foldPatterns (hd : value.distinct = true)
    (h : Position Spared value path (.object members)) :
    ∃ after : Entries Json, Position Spared (foldPatterns value) path (.object after) ∧
      (propertyNames after = propertyNames members ↔ patternKey ∉ propertyNames members) ∧
      ∀ key ∈ dataKeys, (after.get? key = members.get? key ↔
        ∀ data, members.get? key = some data → mentions patternKey data = false) := by
  have hmembers := h.distinct hd
  exact ⟨foldMembers [] members, h.fold hd, propertyNames_fold_iff hmembers,
    fun _ hk => data_fold_iff hmembers hk⟩

end Frame

/-- What stands in each column of an import. -/
def columnSchema : Entries Json := [
  ("properties", .object [("x-pattern", .object []), ("additionalProperties", .object [])]),
  ("enum", .array [.object [("additionalProperties", .bool false)]])]

/-- A property is named like the keyword for patterns, and the default has such a key. -/
def importSchema : Entries Json := [
  ("type", .string "object"),
  ("properties", .object [
    ("patternProperties", .object [("type", .string "string")]),
    ("columns", .object [("items", .object columnSchema)])]),
  ("default", .object [("patternProperties", .object [("^x", .ofNat 1)])])]

theorem frame_foldPatterns_columns : (Json.object importSchema).distinct = true ∧
    Position Spared (.object importSchema) ["properties", "columns", "items"]
      (.object columnSchema) ∧
    ∃ after : Entries Json, Position Spared (foldPatterns (.object importSchema))
        ["properties", "columns", "items"] (.object after) ∧
      (propertyNames after = propertyNames columnSchema ↔
        patternKey ∉ propertyNames columnSchema) ∧
      ∀ key ∈ dataKeys, (after.get? key = columnSchema.get? key ↔
        ∀ data, columnSchema.get? key = some data → mentions patternKey data = false) := by
  have hd : (Json.object importSchema).distinct = true := by decide
  have hcolumns : Position Spared (.object [("items", .object columnSchema)]) ["items"]
      (.object columnSchema) := .slot (by decide) rfl (by decide) (.here _)
  have hspared : Spared [("patternProperties", .object [("type", .string "string")]),
      ("columns", .object [("items", .object columnSchema)])] "columns" :=
    ⟨by decide, fun _ => by decide⟩
  have hposition : Position Spared (.object importSchema) ["properties", "columns", "items"]
      (.object columnSchema) := .named (by decide) rfl rfl hspared hcolumns
  exact ⟨hd, hposition, frame_foldPatterns hd hposition⟩

/-- At the root, one declared name is lost to two others, and the default is rewritten. -/
theorem frame_broken_import : (Json.object importSchema).distinct = true ∧
    Position (fun _ _ => True) (.object importSchema) [] (.object importSchema) ∧
    ∃ after : Entries Json, foldPatterns (.object importSchema) = .object after ∧
      propertyNames importSchema = ["patternProperties", "columns"] ∧
      propertyNames after = ["additionalProperties", "x-pattern", "columns"] ∧
      after.get? "default" ≠ importSchema.get? "default" := by
  refine ⟨by decide, .here _, _, rfl, rfl, rfl, fun hsame => ?_⟩
  have hdefault := congrArg (fun found : Option Json => found.map (mentions patternKey)) hsame
  exact absurd hdefault (by decide)

end RouteDoc.Schema
