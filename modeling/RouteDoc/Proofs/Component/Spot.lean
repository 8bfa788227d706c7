import Mathlib.Data.List.Basic
import RouteDoc.Proofs.Component.Listing
import RouteDoc.Proofs.Component.Node

namespace RouteDoc.Component

/-- An object with these members. A required list without an element is left out. -/
def objectTree (schema : Json) (members : Entries Json) : Json :=
  match schema.get? "required" with
  | some (.array (first :: rest)) => .object [("type", .string "object"),
      ("required", .array (first :: rest)), ("properties", .object members)]
  | _ => .object [("type", .string "object"), ("properties", .object members)]

/-- A leaf under its name, which becomes the title; a title other than null is the description. -/
def leafTree (type : Option String) (name : String) (schema : Json) : Json :=
  let described := match schema.get? "title" with
    | none | some .null => []
    | some title => [("description", title)]
  match type with
  | none => .object (("title", .string name) :: described)
  | some type => .object (("type", .string type) :: ("title", .string name) :: described)

theorem objectOf_requiredOf (schema : Json) (members : Entries Json) :
    objectOf (requiredOf schema) members = objectTree schema members := by
  unfold objectOf requiredOf objectTree
  cases schema.get? "required" with
  | none => rfl
  | some required =>
    cases required with
    | array items => cases items <;> rfl
    | _ => rfl

theorem leaf_titleOf (type : Option String) (name : String) (schema : Json) :
    leaf type name (titleOf schema) = leafTree type name schema := by
  unfold leaf titleOf leafTree
  cases type <;> cases schema.get? "title" with
  | none => rfl
  | some title => cases title <;> rfl

/-- What stands for a schema called `name` in the component at the position `label`. -/
def replacement (home label name : String) (schema : Json) : Json :=
  match _hk : nodeKind schema with
  | .object => .object [("$ref",
      .string ("#/components/schemas/" ++ home ++ "." ++ (label ++ "." ++ name)))]
  | .array none => .object [("type", .string "array"), ("items", .object [])]
  | .array (some items) => .object [("type", .string "array"),
      ("items", replacement home (label ++ ".array") "items" items)]
  | .oneOf alternatives => .object [("oneOf",
      .array (alternatives.zipIdx.attach.map fun ⟨(inner, index), _⟩ =>
        replacement home (label ++ ".oneOf") (toString index) inner))]
  | .primitive type => leafTree type name schema
termination_by sizeOf schema
decreasing_by
  all_goals apply sizeOf_below
  · exact mem_below_of_items ‹_›
  · exact mem_below_of_alternative ‹_› ‹(inner, index) ∈ _›

theorem replacement_eq (home label name : String) (schema : Json) :
    replacement home label name schema = match nodeKind schema with
    | .object => .object [("$ref",
        .string ("#/components/schemas/" ++ home ++ "." ++ (label ++ "." ++ name)))]
    | .array none => .object [("type", .string "array"), ("items", .object [])]
    | .array (some items) => .object [("type", .string "array"),
        ("items", replacement home (label ++ ".array") "items" items)]
    | .oneOf alternatives => .object [("oneOf", .array (alternatives.zipIdx.map
        fun (inner, index) => replacement home (label ++ ".oneOf") (toString index) inner))]
    | .primitive type => leafTree type name schema := by
  rw [replacement]
  split <;> simp only [*, List.map_attach_eq_pmap, List.pmap_eq_map]

/-- An object node of a schema, at the position that its label spells. -/
structure Spot where
  label : String
  node : Json

namespace Spot

/-- The reference that takes the place of the node. -/
def target (home : String) (spot : Spot) : String :=
  "#/components/schemas/" ++ home ++ "." ++ spot.label

/-- The component built from the node. -/
def component (home : String) (spot : Spot) : Registration where
  place := .schemas
  name := home ++ "." ++ spot.label
  value := objectTree spot.node ((spot.node.entriesAt "properties").map
    fun (name, schema) => (name, replacement home spot.label name schema))

theorem target_eq (home : String) (spot : Spot) :
    spot.target home = "#/components/schemas/" ++ (spot.component home).name := by
  unfold target component
  simp only [String.append_assoc]

/-- The nodes whose references stand for a schema called `name` at the position `label`: an object
stands for itself, arrays and alternatives for the objects in them. -/
def outermost (label name : String) (schema : Json) : List Spot :=
  match _h : nodeKind schema with
  | .object => [⟨label ++ "." ++ name, schema⟩]
  | .array none => []
  | .array (some items) => outermost (label ++ ".array") "items" items
  | .oneOf alternatives => alternatives.zipIdx.attach.flatMap fun ⟨(inner, index), _⟩ =>
      outermost (label ++ ".oneOf") (toString index) inner
  | .primitive _ => []
termination_by sizeOf schema
decreasing_by
  all_goals apply sizeOf_below
  · exact mem_below_of_items ‹_›
  · exact mem_below_of_alternative ‹_› ‹(inner, index) ∈ _›

theorem outermost_eq (label name : String) (schema : Json) : outermost label name schema =
    match nodeKind schema with
    | .object => [⟨label ++ "." ++ name, schema⟩]
    | .array none => []
    | .array (some items) => outermost (label ++ ".array") "items" items
    | .oneOf alternatives => alternatives.zipIdx.flatMap fun (inner, index) =>
        outermost (label ++ ".oneOf") (toString index) inner
    | .primitive _ => [] := by
  rw [outermost]
  split <;> simp only [*, List.flatMap_def, List.map_attach_eq_pmap, List.pmap_eq_map]

theorem sizeOf_outermost {schema : Json} : ∀ {label name : String},
    ∀ spot ∈ outermost label name schema, sizeOf spot.node ≤ sizeOf schema := by
  induction schema using node_induction with
  | step schema ih =>
    intro label name spot hm
    rw [outermost_eq] at hm
    cases hk : nodeKind schema with
    | object => simp_all
    | array items =>
      cases items with
      | none => simp [hk] at hm
      | some items =>
        simp only [hk] at hm
        have hb : items ∈ below schema := mem_below_of_items hk
        exact Nat.le_trans (ih items hb spot hm) (Nat.le_of_lt (sizeOf_below hb))
    | oneOf alternatives =>
      simp only [hk, List.mem_flatMap] at hm
      obtain ⟨entry, he, hm⟩ := hm
      have hb : entry.1 ∈ below schema := mem_below_of_alternative hk he
      exact Nat.le_trans (ih entry.1 hb spot hm) (Nat.le_of_lt (sizeOf_below hb))
    | primitive type => simp [hk] at hm

/-- The nodes whose references stand in the component of this node. -/
def inner (spot : Spot) : List Spot :=
  (spot.node.entriesAt "properties").flatMap fun (name, schema) => outermost spot.label name schema

theorem sizeOf_inner {spot other : Spot} (h : other ∈ spot.inner) :
    sizeOf other.node < sizeOf spot.node := by
  obtain ⟨entry, he, hm⟩ := List.mem_flatMap.mp h
  exact Nat.lt_of_le_of_lt (sizeOf_outermost other hm) (Json.sizeOf_entriesAt he)

/-- All nodes from this one down in the order of their registration, this one last. -/
def nodes (spot : Spot) : List Spot :=
  spot.inner.attach.flatMap (fun ⟨other, _⟩ => other.nodes) ++ [spot]
termination_by sizeOf spot.node
decreasing_by exact sizeOf_inner ‹_›

theorem nodes_eq (spot : Spot) : spot.nodes = spot.inner.flatMap nodes ++ [spot] := by
  rw [nodes]
  simp only [List.flatMap_def, List.map_attach_eq_pmap, List.pmap_eq_map]

/-- What holds of a node when it holds of the nodes right below holds of every node. -/
@[induction_eliminator]
theorem induction {P : Spot → Prop}
    (step : ∀ spot : Spot, (∀ other ∈ spot.inner, P other) → P spot) (spot : Spot) : P spot :=
  step spot fun other _ => induction step other
termination_by sizeOf spot.node
decreasing_by exact sizeOf_inner ‹_›

theorem mem_nodes_self (spot : Spot) : spot ∈ spot.nodes := by
  rw [nodes_eq]
  exact List.mem_append_right _ (List.mem_singleton.mpr rfl)

/-- The nodes right below one of the nodes are among the nodes too. -/
theorem inner_mem_nodes {root holder other : Spot} (hh : holder ∈ root.nodes)
    (ho : other ∈ holder.inner) : other ∈ root.nodes := by
  induction root with
  | step root ih =>
    rw [nodes_eq] at hh ⊢
    apply List.mem_append_left
    rcases List.mem_append.mp hh with hh | hh
    · obtain ⟨child, hc, hh⟩ := List.mem_flatMap.mp hh
      exact List.mem_flatMap.mpr ⟨child, hc, ih child hc hh⟩
    · rw [List.mem_singleton.mp hh] at ho
      exact List.mem_flatMap.mpr ⟨other, ho, mem_nodes_self other⟩

end Spot

/-- The components a schema is cut into, the schema itself taken as an object and listed last. -/
def cut (schema : Json) (home label : String) : List Registration :=
  (Spot.nodes ⟨label, schema⟩).map (Spot.component home)

/-- Object nodes become schemas, never responses. -/
theorem place_cut {schema : Json} {home label : String} :
    ∀ entry ∈ cut schema home label, entry.place = .schemas := by
  intro entry hm
  obtain ⟨spot, _, rfl⟩ := List.mem_map.mp hm
  rfl

/-- The nodes right below come first, each with all that is below it. -/
theorem cut_postorder (schema : Json) (home label : String) : cut schema home label =
    (Spot.inner ⟨label, schema⟩).flatMap (fun spot => cut spot.node home spot.label) ++
      [Spot.component home ⟨label, schema⟩] := by
  unfold cut
  rw [Spot.nodes_eq, List.map_append, List.map_flatMap]
  rfl

open Shape

theorem join_array (label : String) : join label "array" = label ++ ".array" :=
  String.append_assoc ..

theorem join_oneOf (label : String) : join label "oneOf" = label ++ ".oneOf" :=
  String.append_assoc ..

theorem standIn_ofSchema {home : String} (schema : Json) : ∀ {label name : String},
    (ofSchema schema).standIn home label name = replacement home label name schema := by
  induction schema using node_induction with
  | step schema ih =>
    intro label name
    rw [ofSchema_eq, replacement_eq]
    cases hk : nodeKind schema with
    | object => rfl
    | array items =>
      cases items with
      | none => rfl
      | some items =>
        have hitems : (ofSchema items).standIn home (label ++ ".array") "items" =
            replacement home (label ++ ".array") "items" items := ih items (mem_below_of_items hk)
        simp only [Option.map_some, standIn, join_array, hitems]
        rfl
    | oneOf alternatives =>
      simp only [standIn, standInEach_eq, List.zipIdx_map, List.map_map, join_oneOf]
      congr 4
      refine List.map_congr_left fun entry hm => ?_
      have hb : entry.1 ∈ below schema := mem_below_of_alternative hk hm
      exact ih entry.1 hb
    | primitive type => exact leaf_titleOf type name schema

/-- The component of an object shape is that of its node. -/
theorem component_ofSchema (schema : Json) (home label : String) :
    Shape.component home label (requiredOf schema) (propertiesOf schema) =
      Spot.component home ⟨label, schema⟩ := by
  have hmembers : standInOf home label (propertiesOf schema) =
      (schema.entriesAt "properties").map
        fun (name, schema) => (name, replacement home label name schema) := by
    rw [standInOf_eq, propertiesOf_eq, List.map_map]
    exact List.map_congr_left fun entry _ => Prod.ext rfl (standIn_ofSchema entry.2)
  rw [Shape.component, hmembers, objectOf_requiredOf]
  rfl

/-- A schema that is taken as an object has the components of its nodes, provided that the schemas
of its properties have. -/
theorem components_root {schema : Json} {home label : String}
    (h : ∀ entry ∈ schema.entriesAt "properties",
      (ofSchema entry.2).components home label entry.1 =
        ((Spot.outermost label entry.1 entry.2).flatMap Spot.nodes).map (Spot.component home)) :
    componentsOf home label (propertiesOf schema) ++
      [Shape.component home label (requiredOf schema) (propertiesOf schema)] =
        cut schema home label := by
  rw [component_ofSchema, cut, Spot.nodes_eq, List.map_append, componentsOf_eq, propertiesOf_eq,
    List.flatMap_map, List.flatMap_congr h, Spot.inner, List.flatMap_assoc, List.map_flatMap]
  rfl

/-- The components of a schema are those of its object nodes, in the same order. -/
theorem components_ofSchema {home : String} (schema : Json) : ∀ {label name : String},
    (ofSchema schema).components home label name =
      ((Spot.outermost label name schema).flatMap Spot.nodes).map (Spot.component home) := by
  induction schema using node_induction with
  | step schema ih =>
    intro label name
    rw [Spot.outermost_eq]
    cases hk : nodeKind schema with
    | object =>
      have hcut : (ofSchema schema).components home label name =
          cut schema home (join label name) := by
        rw [← components_root fun entry hm => ih entry.2 (mem_below_of_property hk hm),
          ofSchema_eq, hk, propertiesOf_eq]
        rfl
      rw [hcut]
      simp [cut, join]
    | array items =>
      rw [ofSchema_eq, hk]
      cases items with
      | none => simp [components]
      | some items => simpa [components, join_array] using ih items (mem_below_of_items hk)
    | oneOf alternatives =>
      rw [ofSchema_eq, hk]
      simp only [components, componentsEach_eq, List.zipIdx_map, List.flatMap_map,
        List.flatMap_assoc, List.map_flatMap, join_oneOf]
      refine List.flatMap_congr fun entry hm => ?_
      have hb : entry.1 ∈ below schema := mem_below_of_alternative hk hm
      exact (ih entry.1 hb).trans (List.map_flatMap ..)
    | primitive type =>
      rw [ofSchema_eq, hk]
      simp [components]

/-- Decomposing a schema is registering its components and answering the reference to the last. -/
theorem decompose_eq (schema : Json) (home label : String) :
    decompose schema home label = do
      registerAll (cut schema home label)
      return schemaReference home label := by
  rw [← components_root fun entry _ => components_ofSchema entry.2]
  simp only [decompose, placeProperties_eq, registerAll_append, register_eq, Shape.component,
    reference_join, bind_assoc, pure_bind]

def ownerSchema : Json := .object [("type", .string "Object"),
  ("properties", .object [("name", .object [("title", .string "Name")])])]

def cellSchema : Json := .object [("type", .string "object")]

def gridSchema : Json := .object [("type", .string "array"),
  ("items", .object [("type", .string "array"), ("items", cellSchema)])]

def contactSchema : Json := .object [("oneOf",
  .array [.object [("type", .string "string")], cellSchema])]

/-- An order with an owner, a grid of objects and a choice of contacts. -/
def orderSchema : Json := .object [
  ("type", .string "object"), ("required", .array [.string "owner"]),
  ("properties", .object [("owner", ownerSchema), ("grid", gridSchema),
    ("contact", contactSchema)])]

/-- What the order is cut into, its own component last. -/
def orderComponents : Entries Json := [
  ("shop.post.body.owner", .object [("type", .string "object"), ("properties", .object [
    ("name", .object [("title", .string "name"), ("description", .string "Name")])])]),
  ("shop.post.body.array.array.items",
    .object [("type", .string "object"), ("properties", .object [])]),
  ("shop.post.body.oneOf.1", .object [("type", .string "object"), ("properties", .object [])]),
  ("shop.post.body", .object [
    ("type", .string "object"), ("required", .array [.string "owner"]),
    ("properties", .object [
      ("owner", .object [("$ref", .string "#/components/schemas/shop.post.body.owner")]),
      ("grid", .object [("type", .string "array"), ("items", .object [("type", .string "array"),
        ("items", .object [
          ("$ref", .string "#/components/schemas/shop.post.body.array.array.items")])])]),
      ("contact", .object [("oneOf", .array [
        .object [("type", .string "string"), ("title", .string "0")],
        .object [("$ref", .string "#/components/schemas/shop.post.body.oneOf.1")]])])])])]

theorem inner_cell (label : String) : Spot.inner ⟨label, cellSchema⟩ = [] := rfl

theorem inner_owner (label : String) : Spot.inner ⟨label, ownerSchema⟩ = [] := by
  change Spot.outermost _ _ _ ++ [] = _
  rw [Spot.outermost_eq]
  rfl

theorem inner_order : Spot.inner ⟨"body", orderSchema⟩ = [⟨"body.owner", ownerSchema⟩,
    ⟨"body.array.array.items", cellSchema⟩, ⟨"body.oneOf.1", cellSchema⟩] := by
  have howner : Spot.outermost "body" "owner" ownerSchema = [⟨"body.owner", ownerSchema⟩] := by
    rw [Spot.outermost_eq]
    rfl
  have hgrid : Spot.outermost "body" "grid" gridSchema =
      [⟨"body.array.array.items", cellSchema⟩] := by
    rw [Spot.outermost_eq]
    change Spot.outermost _ _ _ = _
    rw [Spot.outermost_eq]
    change Spot.outermost _ _ _ = _
    rw [Spot.outermost_eq]
    rfl
  have hcontact : Spot.outermost "body" "contact" contactSchema =
      [⟨"body.oneOf.1", cellSchema⟩] := by
    rw [Spot.outermost_eq]
    change Spot.outermost _ _ _ ++ (Spot.outermost _ _ _ ++ []) = _
    rw [Spot.outermost_eq, Spot.outermost_eq]
    rfl
  change Spot.outermost _ _ _ ++ (Spot.outermost _ _ _ ++ (Spot.outermost _ _ _ ++ [])) = _
  rw [howner, hgrid, hcontact]
  rfl

theorem component_cell (label : String) : Spot.component "shop.post" ⟨label, cellSchema⟩ =
    ⟨.schemas, "shop.post." ++ label, .object [("type", .string "object"),
      ("properties", .object [])]⟩ := rfl

theorem component_owner : Spot.component "shop.post" ⟨"body.owner", ownerSchema⟩ =
    ⟨.schemas, "shop.post.body.owner", .object [("type", .string "object"),
      ("properties", .object [("name", .object [("title", .string "name"),
        ("description", .string "Name")])])]⟩ := by
  change Registration.mk _ _ (.object [("type", _),
    ("properties", .object [("name", replacement _ _ _ _)])]) = _
  rw [replacement_eq]
  rfl

theorem component_order : Spot.component "shop.post" ⟨"body", orderSchema⟩ =
    ⟨.schemas, "shop.post.body", .object [
      ("type", .string "object"), ("required", .array [.string "owner"]),
      ("properties", .object [
        ("owner", .object [("$ref", .string "#/components/schemas/shop.post.body.owner")]),
        ("grid", .object [("type", .string "array"), ("items", .object [("type", .string "array"),
          ("items", .object [
            ("$ref", .string "#/components/schemas/shop.post.body.array.array.items")])])]),
        ("contact", .object [("oneOf", .array [
          .object [("type", .string "string"), ("title", .string "0")],
          .object [("$ref", .string "#/components/schemas/shop.post.body.oneOf.1")]])])])]⟩ := by
  have howner : replacement "shop.post" "body" "owner" ownerSchema =
      .object [("$ref", .string "#/components/schemas/shop.post.body.owner")] := by
    rw [replacement_eq]
    rfl
  have hgrid : replacement "shop.post" "body" "grid" gridSchema = .object [
      ("type", .string "array"), ("items", .object [("type", .string "array"), ("items",
        .object [("$ref", .string "#/components/schemas/shop.post.body.array.array.items")])])] := by
    rw [replacement_eq]
    change Json.object [("type", _), ("items", replacement _ _ _ _)] = _
    rw [replacement_eq]
    change Json.object [("type", _), ("items", .object [("type", _),
      ("items", replacement _ _ _ _)])] = _
    rw [replacement_eq]
    rfl
  have hcontact : replacement "shop.post" "body" "contact" contactSchema = .object [("oneOf",
      .array [.object [("type", .string "string"), ("title", .string "0")],
        .object [("$ref", .string "#/components/schemas/shop.post.body.oneOf.1")]])] := by
    rw [replacement_eq]
    change Json.object [("oneOf", .array [replacement _ _ _ _, replacement _ _ _ _])] = _
    rw [replacement_eq, replacement_eq]
    rfl
  change Registration.mk _ _ (.object [("type", _), ("required", _), ("properties", .object [
    ("owner", replacement _ _ _ _), ("grid", replacement _ _ _ _),
    ("contact", replacement _ _ _ _)])]) = _
  rw [howner, hgrid, hcontact]
  rfl

theorem cut_order : cut orderSchema "shop.post" "body" =
    orderComponents.map fun entry => ⟨.schemas, entry.1, entry.2⟩ := by
  have hcell : ∀ label, cut cellSchema "shop.post" label =
      [Spot.component "shop.post" ⟨label, cellSchema⟩] := by
    intro label
    rw [cut_postorder, inner_cell]
    rfl
  have howner : cut ownerSchema "shop.post" "body.owner" =
      [Spot.component "shop.post" ⟨"body.owner", ownerSchema⟩] := by
    rw [cut_postorder, inner_owner]
    rfl
  rw [cut_postorder, inner_order]
  simp only [List.flatMap_cons, List.flatMap_nil, hcell, howner, component_cell, component_owner,
    component_order]
  rfl

end RouteDoc.Component
