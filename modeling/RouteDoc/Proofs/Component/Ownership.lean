import RouteDoc.Proofs.Component.Inlining
import RouteDoc.Proofs.Component.Target

namespace RouteDoc.Component

/-- Each reference that stands in a component leads to the component of the node it replaced. -/
def LeadsHome (schema : Json) (home label : String) (registry : Registry) : Prop :=
  ∀ holder ∈ Spot.nodes ⟨label, schema⟩, ∀ node ∈ holder.inner,
    registry.named? (node.target home) = some (node.component home).value

theorem target_inj {home : String} {spot other : Spot}
    (h : spot.target home = other.target home) : spot.label = other.label :=
  (String.append_right_inj _).mp h

theorem key_component_inj {home : String} {spot other : Spot}
    (h : (spot.component home).key = (other.component home).key) : spot.label = other.label := by
  have hn : home ++ "." ++ spot.label = home ++ "." ++ other.label := congrArg Prod.snd h
  exact (String.append_right_inj _).mp hn

/-- The last node of a label is the one whose component stays. -/
theorem named?_last {home : String} {before rest : List Spot} {last : Spot}
    {registry after : Registry}
    (hadd : Registry.addAll ((before ++ last :: rest).map (Spot.component home)) registry =
      (.ok (), after)) (hl : ∀ later ∈ rest, later.label ≠ last.label) :
    after.named? (last.target home) = some (last.component home).value := by
  have hfresh : (last.component home).key ∉ (rest.map (Spot.component home)).map
      Registration.key := by
    intro hm
    obtain ⟨entry, he, hk⟩ := List.mem_map.mp hm
    obtain ⟨later, hr, rfl⟩ := List.mem_map.mp he
    exact hl later hr (key_component_inj hk)
  have hlatest : latest .schemas (last.component home).name
      ((before ++ last :: rest).map (Spot.component home)) = some (last.component home).value := by
    rw [List.map_append, List.map_cons]
    exact latest_append_cons hfresh
  calc after.named? (last.target home)
      = after.get? .schemas (last.component home).name := named?_target after home last
    _ = (latest .schemas (last.component home).name _).or
          (registry.get? .schemas (last.component home).name) := Registry.get?_addAll hadd _ _
    _ = some (last.component home).value := by rw [hlatest]; rfl

/-- Under the overwriting policy the references in a component are those of the nodes right below
its own, and each leads to the component of the last node, in the order of registration, that
derives the same name. This is the node it replaced unless a later one derives that name. -/
theorem reference_leads_to_last (schema : Json) (home label : String) :
    ∃ after, (decompose schema home label).run.run {} = (.ok (schemaReference home label), after) ∧
      ∀ holder ∈ Spot.nodes ⟨label, schema⟩,
        componentTargets (holder.component home).value = holder.inner.map (Spot.target home) ∧
        ∀ node ∈ holder.inner, ∃ before last rest,
          Spot.nodes ⟨label, schema⟩ = before ++ last :: rest ∧
          last.target home = node.target home ∧
          (∀ later ∈ rest, later.target home ≠ node.target home) ∧
          after.named? (node.target home) = some (last.component home).value := by
  obtain ⟨after, hadd⟩ : ∃ after, Registry.addAll (cut schema home label) {} = (.ok (), after) :=
    Registry.addAll_overwrite rfl
  refine ⟨after, ?_, fun holder hh => ⟨componentTargets_component home holder, ?_⟩⟩
  · rw [run_decompose, hadd]
  · intro node hn
    have hm : node ∈ Spot.nodes ⟨label, schema⟩ := Spot.inner_mem_nodes hh hn
    obtain ⟨before, last, rest, hs, hl, hr⟩ :=
      exists_last (P := fun spot => spot.label = node.label) ⟨node, hm, rfl⟩
    rw [cut, hs] at hadd
    have htarget : last.target home = node.target home := by
      unfold Spot.target
      rw [hl]
    refine ⟨before, last, rest, hs, htarget, fun later hlater he => ?_, ?_⟩
    · exact hr later hlater (target_inj he)
    · rw [← htarget]
      exact named?_last hadd fun later hlater => hl ▸ hr later hlater

def objectWith (property : String) : Json :=
  .object [("type", .string "object"), ("properties", .object [(property, .object [])])]

def listOf (items : Json) : Json := .object [("type", .string "array"), ("items", items)]

/-- Two lists whose items derive the same name. -/
def twoLists : Json := .object [("properties",
  .object [("a", listOf (objectWith "x")), ("b", listOf (objectWith "y"))])]

/-- The reference in the first list leads to the items of the second. -/
theorem not_leadsHome_twoLists : ∃ after,
    (decompose twoLists "p" "t").run.run {} = (.ok "#/components/schemas/p.t", after) ∧
      ¬LeadsHome twoLists "p" "t" after := by
  refine ⟨((decompose twoLists "p" "t").run.run {}).2, rfl, fun h => ?_⟩
  have hitems : ⟨"t.array.items", objectWith "x"⟩ ∈
      Spot.outermost "t" "a" (listOf (objectWith "x")) := by
    rw [Spot.outermost_eq]
    change _ ∈ Spot.outermost "t.array" "items" (objectWith "x")
    rw [Spot.outermost_eq]
    exact List.mem_singleton.mpr rfl
  have hin : ⟨"t.array.items", objectWith "x"⟩ ∈ Spot.inner ⟨"t", twoLists⟩ :=
    List.mem_flatMap.mpr ⟨("a", listOf (objectWith "x")), List.mem_cons_self, hitems⟩
  have hhome := h ⟨"t", twoLists⟩ (Spot.mem_nodes_self _) _ hin
  have hkeys := congrArg (Option.map fun value => (value.entriesAt "properties").keys) hhome
  exact absurd hkeys (by decide)

end RouteDoc.Component
