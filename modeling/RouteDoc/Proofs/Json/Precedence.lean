import RouteDoc.Proofs.Json.Pointer

namespace RouteDoc.Json

/-- What stands right in a value, under its keys or indices. -/
def children : Json → Entries Json
  | .object members => members
  | .array items => items.zipIdx.map fun (item, index) => (toString index, item)
  | _ => []

variable {value child inner : Json} {key : String} {path first second : List String}

theorem leadsTo_cons_iff : value.LeadsTo (key :: path) inner ↔
    ∃ child, (key, child) ∈ value.children ∧ child.LeadsTo path inner := by
  constructor
  · intro h
    cases h with
    | @member members key child inner path hm hp => exact ⟨child, hm, hp⟩
    | @item items index child inner path hi hp =>
      refine ⟨child, List.mem_map.mpr ⟨(child, index), ?_, rfl⟩, hp⟩
      exact List.mk_mem_zipIdx_iff_getElem?.mpr hi
  · rintro ⟨child, hc, hp⟩
    cases value with
    | object members => exact .member hc hp
    | array items =>
      obtain ⟨⟨item, index⟩, hm, he⟩ := List.mem_map.mp hc
      cases he
      exact .item (List.mk_mem_zipIdx_iff_getElem?.mp hm) hp
    | _ => cases hc

theorem toString_index_injective : Function.Injective (toString : Nat → String) := by
  intro first second h
  have hindex := index?_toString first
  rw [h, index?_toString] at hindex
  exact (Option.some.inj hindex).symm

theorem distinct_of_mem_children (hd : value.distinct = true) (h : (key, child) ∈ value.children) :
    child.distinct = true := by
  cases value with
  | object members => exact (distinct_object.mp hd).2 _ h
  | array items =>
    obtain ⟨⟨item, index⟩, hm, he⟩ := List.mem_map.mp h
    cases he
    exact distinct_array.mp hd _ (List.fst_mem_of_mem_zipIdx hm)
  | _ => cases h

/-- No two children of a value stand under one step. -/
theorem nodup_children (hd : value.distinct = true) : value.children.keys.Nodup := by
  cases value with
  | object members => exact (distinct_object.mp hd).1
  | array items =>
    have hkeys : (children (.array items)).keys = (items.zipIdx.map Prod.snd).map toString := by
      rw [children, Entries.keys, List.map_map, List.map_map]
      rfl
    rw [hkeys, List.zipIdx_map_snd, ← List.range_eq_range']
    exact List.nodup_range.map toString_index_injective
  | _ => exact List.nodup_nil

theorem distinct_of_leadsTo (hd : value.distinct = true) (h : value.LeadsTo path inner) :
    inner.distinct = true := by
  induction path generalizing value with
  | nil => cases h; exact hd
  | cons key path ih =>
    obtain ⟨child, hc, hp⟩ := leadsTo_cons_iff.mp h
    exact ih (distinct_of_mem_children hd hc) hp

/-- Where the two paths into the value part, the first goes on to an earlier member or item. -/
def Precedes (value : Json) (first second : List String) : Prop :=
  ∃ shared parent step other, value.LeadsTo shared parent ∧
    [step, other].Sublist parent.children.keys ∧
    shared ++ [step] <+: first ∧ shared ++ [other] <+: second

namespace Precedes

theorem ne (hd : value.distinct = true) (h : value.Precedes first second) : first ≠ second := by
  obtain ⟨shared, parent, step, other, hl, hsteps, hf, hs⟩ := h
  rintro rfl
  have hsame : shared ++ [step] = shared ++ [other] :=
    (List.prefix_of_prefix_length_le hf hs (by simp)).eq_of_length (by simp)
  have hne : step ≠ other := by
    simpa using (nodup_children (distinct_of_leadsTo hd hl)).sublist hsteps
  exact hne (by simpa using hsame)

theorem of_children {other : String} {rest : List String}
    (h : [key, other].Sublist value.children.keys) :
    value.Precedes (key :: path) (other :: rest) :=
  ⟨[], value, key, other, .here value, h, List.prefix_append [key] path,
    List.prefix_append [other] rest⟩

/-- Paths into a child are ordered as they are there. -/
theorem below (hc : (key, child) ∈ value.children) (h : child.Precedes first second) :
    value.Precedes (key :: first) (key :: second) := by
  obtain ⟨shared, parent, step, other, hl, hsteps, hf, hs⟩ := h
  exact ⟨key :: shared, parent, step, other, leadsTo_cons_iff.mpr ⟨child, hc, hl⟩, hsteps,
    List.cons_prefix_cons.mpr ⟨rfl, hf⟩, List.cons_prefix_cons.mpr ⟨rfl, hs⟩⟩

end Precedes

end RouteDoc.Json
