import RouteDoc.Proofs.Component.Spot

namespace RouteDoc.Component

mutual

/-- The references that stand for a schema: itself one, or some at `items` and `oneOf` positions. -/
def memberTargets : Json → List String
  | .object members => targetsIn members
  | _ => []
termination_by structural value => value

def targetsIn : List (String × Json) → List String
  | [] => []
  | (key, value) :: rest =>
    (if key = "$ref" then value.asString?.toList
    else if key = "items" then memberTargets value
    else if key = "oneOf" then targetsOfList value
    else []) ++ targetsIn rest

def targetsOfList : Json → List String
  | .array values => targetsEach values
  | _ => []

def targetsEach : List Json → List String
  | [] => []
  | value :: rest => memberTargets value ++ targetsEach rest

end

/-- The references at property, `items` and `oneOf` positions of a component. -/
def componentTargets (component : Json) : List String :=
  (component.entriesAt "properties").flatMap fun (_, member) => memberTargets member

theorem targetsEach_eq (values : List Json) :
    targetsEach values = values.flatMap memberTargets := by
  induction values with
  | nil => rfl
  | cons value rest ih => simp [targetsEach, ih]

@[simp] theorem memberTargets_referenceTo (target : String) :
    memberTargets (referenceTo target) = [target] := by
  simp [referenceTo, memberTargets, targetsIn, Json.asString?]

@[simp] theorem memberTargets_arrayOf (items : Json) :
    memberTargets (arrayOf items) = memberTargets items := by
  simp [arrayOf, memberTargets, targetsIn]

@[simp] theorem memberTargets_oneOf (alternatives : List Json) :
    memberTargets (.object [("oneOf", .array alternatives)]) =
      alternatives.flatMap memberTargets := by
  simp [memberTargets, targetsIn, targetsOfList, targetsEach_eq]

@[simp] theorem memberTargets_leaf (type : Option String) (name : String) (title : Option Json) :
    memberTargets (leaf type name title) = [] := by
  cases type <;> cases title <;> simp [leaf, memberTargets, targetsIn]

theorem componentTargets_objectOf (required : List Json) (properties : Entries Json) :
    componentTargets (objectOf required properties) =
      properties.flatMap fun (_, member) => memberTargets member := by
  by_cases h : required = [] <;>
    simp [componentTargets, objectOf, Json.entriesAt, Json.get?, Entries.get?, Json.asObject?, h]

/-- The references in what stands for a schema are those of its outermost object nodes. -/
theorem memberTargets_replacement {home : String} (schema : Json) : ∀ {label name : String},
    memberTargets (replacement home label name schema) =
      (Spot.outermost label name schema).map (Spot.target home) := by
  induction schema using node_induction with
  | step schema ih =>
    intro label name
    rw [replacement_eq, Spot.outermost_eq]
    cases hk : nodeKind schema with
    | object => exact memberTargets_referenceTo _
    | array items =>
      cases items with
      | none => simp [memberTargets, targetsIn]
      | some items => exact (memberTargets_arrayOf _).trans (ih items (mem_below_of_items hk))
    | oneOf alternatives =>
      simp only [memberTargets_oneOf, List.flatMap_map, List.map_flatMap]
      refine List.flatMap_congr fun entry hm => ?_
      have hb : entry.1 ∈ below schema := mem_below_of_alternative hk hm
      exact ih entry.1 hb
    | primitive type =>
      simp only [← leaf_titleOf, memberTargets_leaf]
      rfl

/-- The references in a component are those of the nodes right below. -/
theorem componentTargets_component (home : String) (spot : Spot) :
    componentTargets (spot.component home).value = spot.inner.map (Spot.target home) := by
  rw [Spot.component, ← objectOf_requiredOf, componentTargets_objectOf, Spot.inner,
    List.map_flatMap, List.flatMap_map]
  exact List.flatMap_congr fun entry _ => memberTargets_replacement entry.2

end RouteDoc.Component
