import RouteDoc.Proofs.Component.Addition
import RouteDoc.Proofs.Component.Target

namespace RouteDoc.Component

namespace Spot

/-- A schema called `name` at the position `label` has this object node on its outside: it is the
node, or a list or a choice with such an item or alternative. -/
inductive Outside : String → String → Json → Spot → Prop
  | object {label name type : String} {schema : Json} :
      schema.get? "type" = some (.string type) → Text.lower type = "object" →
      Outside label name schema ⟨label ++ "." ++ name, schema⟩
  | items {label name type : String} {schema items : Json} {spot : Spot} :
      schema.get? "type" = some (.string type) → Text.lower type = "array" →
      schema.get? "items" = some items → Outside (label ++ ".array") "items" items spot →
      Outside label name schema spot
  | alternative {label name : String} {schema inner : Json} {alternatives : List Json}
      {index : Nat} {spot : Spot} : (∀ type, schema.get? "type" ≠ some (.string type)) →
      schema.get? "oneOf" = some (.array alternatives) → alternatives[index]? = some inner →
      Outside (label ++ ".oneOf") (toString index) inner spot → Outside label name schema spot

/-- The object nodes that are reached through properties, items and alternatives. -/
inductive Reached (root : Spot) : Spot → Prop
  | root : Reached root root
  | property {holder spot : Spot} {name : String} {schema : Json} : Reached root holder →
      (name, schema) ∈ holder.node.entriesAt "properties" →
      Outside holder.label name schema spot → Reached root spot

theorem outside_of_mem_outermost {schema : Json} : ∀ {label name : String} {spot : Spot},
    spot ∈ outermost label name schema → Outside label name schema spot := by
  induction schema using node_induction with
  | step schema ih =>
    intro label name spot hm
    rw [outermost_eq] at hm
    cases hk : nodeKind schema with
    | object =>
      simp only [hk, List.mem_singleton] at hm
      subst hm
      obtain ⟨type, ht, hl⟩ := nodeKind_eq_object.mp hk
      exact .object ht hl
    | array items =>
      cases items with
      | none => simp [hk] at hm
      | some items =>
        simp only [hk] at hm
        have hb : items ∈ below schema := mem_below_of_items hk
        obtain ⟨⟨type, ht, hl⟩, hi⟩ := nodeKind_eq_array.mp hk
        exact .items ht hl hi (ih items hb hm)
    | oneOf alternatives =>
      simp only [hk, List.mem_flatMap] at hm
      obtain ⟨⟨inner, index⟩, he, hm⟩ := hm
      have hi : alternatives[index]? = some inner := List.mk_mem_zipIdx_iff_getElem?.mp he
      have hb : inner ∈ below schema := mem_below_of_alternative hk he
      obtain ⟨ht, ho⟩ := nodeKind_eq_oneOf.mp hk
      exact .alternative ht ho hi (ih inner hb hm)
    | primitive type => simp [hk] at hm

theorem mem_outermost {label name : String} {schema : Json} {spot : Spot} :
    spot ∈ outermost label name schema ↔ Outside label name schema spot := by
  constructor
  · exact outside_of_mem_outermost
  · intro h
    induction h with
    | object ht hl => simp [outermost_eq, nodeKind_eq_object.mpr ⟨_, ht, hl⟩]
    | items ht hl hi _ ih =>
      rw [outermost_eq]
      simpa [nodeKind_eq_array.mpr ⟨⟨_, ht, hl⟩, hi⟩] using ih
    | alternative ht ho hi _ ih =>
      rw [outermost_eq]
      simp only [nodeKind_eq_oneOf.mpr ⟨ht, ho⟩, List.mem_flatMap]
      exact ⟨(_, _), List.mk_mem_zipIdx_iff_getElem?.mpr hi, ih⟩

theorem mem_inner {holder spot : Spot} : spot ∈ holder.inner ↔
    ∃ name schema, (name, schema) ∈ holder.node.entriesAt "properties" ∧
      Outside holder.label name schema spot := by
  simp [inner, List.mem_flatMap, mem_outermost]

theorem Reached.trans {first second third : Spot} (hf : Reached first second)
    (hs : Reached second third) : Reached first third := by
  induction hs with
  | root => exact hf
  | property _ hp ho ih => exact .property ih hp ho

/-- The nodes in the order of their registration are those that are reached. -/
theorem mem_nodes {root spot : Spot} : spot ∈ root.nodes ↔ Reached root spot := by
  constructor
  · intro hm
    induction root with
    | step root ih =>
      rw [nodes_eq] at hm
      rcases List.mem_append.mp hm with hm | hm
      · obtain ⟨other, ho, hm⟩ := List.mem_flatMap.mp hm
        obtain ⟨name, schema, hp, hout⟩ := mem_inner.mp ho
        have hother : Reached root other := .property .root hp hout
        exact hother.trans (ih other ho hm)
      · rw [List.mem_singleton.mp hm]
        exact .root
  · intro h
    induction h with
    | root => exact mem_nodes_self root
    | property _ hp ho ih => exact inner_mem_nodes ih (mem_inner.mpr ⟨_, _, hp, ho⟩)

end Spot

/-- The equation by the nodes right below has one solution. -/
theorem eq_cut_of_postorder {list : Json → String → String → List Registration} {home : String}
    (h : ∀ schema label, list schema home label =
      (Spot.inner ⟨label, schema⟩).flatMap (fun spot => list spot.node home spot.label) ++
        [Spot.component home ⟨label, schema⟩]) (spot : Spot) :
    list spot.node home spot.label = cut spot.node home spot.label := by
  induction spot with
  | step spot ih => rw [h, cut_postorder, List.flatMap_congr ih]

theorem mem_cut {schema : Json} {home label : String} {entry : Registration} :
    entry ∈ cut schema home label ↔
      ∃ spot, Spot.Reached ⟨label, schema⟩ spot ∧ entry = spot.component home := by
  rw [cut, List.mem_map]
  constructor
  · rintro ⟨spot, hm, rfl⟩
    exact ⟨spot, Spot.mem_nodes.mp hm, rfl⟩
  · rintro ⟨spot, hr, rfl⟩
    exact ⟨spot, Spot.mem_nodes.mpr hr, rfl⟩

/-- Decomposing a schema adds its components, either all of them or those before one whose name is
taken. -/
theorem run_decompose_cases (schema : Json) (home label : String) (registry : Registry) :
    (∃ after, Registry.addAll (cut schema home label) registry = (.ok (), after) ∧
      (decompose schema home label).run.run registry =
        (.ok (schemaReference home label), after)) ∨
    ∃ before entry rest middle, cut schema home label = before ++ entry :: rest ∧
      Registry.addAll before registry = (.ok (), middle) ∧
      middle.add .schemas entry.name entry.value = .error ⟨.schemas, entry.name⟩ ∧
      (decompose schema home label).run.run registry = (.error ⟨.schemas, entry.name⟩, middle) := by
  rcases Registry.addAll_cases (cut schema home label) registry with
    ⟨after, ha⟩ | ⟨before, entry, rest, middle, hl, hb, he, ha⟩
  · left
    exact ⟨after, ha, by rw [run_decompose, ha]⟩
  · right
    have hm : entry ∈ cut schema home label := by simp [hl]
    have hplace : entry.place = .schemas := place_cut entry hm
    rw [hplace] at he ha
    exact ⟨before, entry, rest, middle, hl, hb, he, by rw [run_decompose, ha]⟩

/-- A function of a schema and its position alone lists one component for each object node that is
reached, those below a node before its own and the root's last. Decomposing the schema under any
registry and policy is adding these components one by one: the answer is the reference to the last,
or the error of the first that is refused, with everything before it registered. -/
theorem decompose_adds_postorder : ∃ list : Json → String → String → List Registration,
    ∀ schema home label,
      list schema home label =
        (Spot.inner ⟨label, schema⟩).flatMap (fun spot => list spot.node home spot.label) ++
          [Spot.component home ⟨label, schema⟩] ∧
      (∀ entry, entry ∈ list schema home label ↔
        ∃ spot, Spot.Reached ⟨label, schema⟩ spot ∧ entry = spot.component home) ∧
      ∀ registry : Registry,
        (∃ after, Registry.addAll (list schema home label) registry = (.ok (), after) ∧
          (decompose schema home label).run.run registry =
            (.ok ("#/components/schemas/" ++ home ++ "." ++ label), after)) ∨
        ∃ before entry rest middle, list schema home label = before ++ entry :: rest ∧
          Registry.addAll before registry = (.ok (), middle) ∧
          middle.add .schemas entry.name entry.value = .error ⟨.schemas, entry.name⟩ ∧
          (decompose schema home label).run.run registry =
            (.error ⟨.schemas, entry.name⟩, middle) := by
  refine ⟨cut, ?_⟩
  intro schema home label
  refine ⟨cut_postorder schema home label, ?_, ?_⟩
  · intro entry
    exact mem_cut
  · intro registry
    exact run_decompose_cases schema home label registry

/-- The components of an order, and those before the third where the name of that one is taken. -/
theorem decompose_adds_postorder_order : ∃ list : Json → String → String → List Registration,
    list orderSchema "shop.post" "body" =
      orderComponents.map (fun entry => ⟨.schemas, entry.1, entry.2⟩) ∧
    (∃ after, (decompose orderSchema "shop.post" "body").run.run {} =
        (.ok "#/components/schemas/shop.post.body", after) ∧ after.schemas = orderComponents ∧
      Registry.addAll (list orderSchema "shop.post" "body") {} = (.ok (), after)) ∧
    (decompose orderSchema "shop.post" "body").run.run
        { schemas := [("shop.post.body.oneOf.1", .null)], policy := .fail } =
      (.error ⟨.schemas, "shop.post.body.oneOf.1"⟩,
        { schemas := ("shop.post.body.oneOf.1", .null) :: orderComponents.take 2,
          policy := .fail }) := by
  obtain ⟨list, h⟩ := decompose_adds_postorder
  have hlist : list orderSchema "shop.post" "body" =
      orderComponents.map (fun entry => ⟨.schemas, entry.1, entry.2⟩) := by
    rw [← cut_order]
    exact eq_cut_of_postorder (fun schema label => (h schema "shop.post" label).1)
      ⟨"body", orderSchema⟩
  refine ⟨list, hlist, ⟨_, rfl, rfl, ?_⟩, rfl⟩
  rw [hlist]
  rfl

end RouteDoc.Component
