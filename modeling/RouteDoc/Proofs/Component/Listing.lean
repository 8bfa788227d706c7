import RouteDoc.Component.Decomposition

namespace RouteDoc.Component

/-- An entry that is to be added. -/
structure Registration where
  place : Section
  name : String
  value : Json

/-- Adds the entries in order, up to the first that is refused. -/
def registerAll : List Registration → Registering Unit
  | [] => return ()
  | entry :: rest => do
    let _ ← register entry.place entry.name entry.value
    registerAll rest

theorem registerAll_append (first second : List Registration) :
    registerAll (first ++ second) = (do registerAll first; registerAll second) := by
  induction first with
  | nil => simp [registerAll]
  | cons entry rest ih => simp [registerAll, ih]

/-- The answer of a registration is the reference to its name. -/
theorem register_eq (place : Section) (name : String) (value : Json) :
    register place name value = do
      registerAll [⟨place, name, value⟩]
      return reference place name := by
  simp only [registerAll, register, bind_assoc, pure_bind]
  congr 1
  funext registry
  cases registry.add place name value with
  | ok next => simp
  | error duplicate => rfl

/-- The reference to the schema component `home.label`. -/
def schemaReference (home label : String) : String :=
  "#/components/schemas/" ++ home ++ "." ++ label

theorem reference_schemas (name : String) :
    reference .schemas name = "#/components/schemas/" ++ name := rfl

theorem reference_join (home label : String) :
    reference .schemas (join home label) = schemaReference home label := by
  unfold schemaReference join
  rw [reference_schemas]
  simp only [String.append_assoc]

namespace Shape

mutual

/-- What stands for a schema called `name` at the position `label`. -/
def standIn (home label name : String) : Shape → Json
  | .object _ _ => referenceTo (schemaReference home (join label name))
  | .array none => arrayOf (.object [])
  | .array (some items) => arrayOf (items.standIn home (join label "array") "items")
  | .oneOf alternatives =>
    .object [("oneOf", .array (standInEach home (join label "oneOf") 0 alternatives))]
  | .primitive type title => leaf type name title
termination_by structural shape => shape

def standInOf (home label : String) : List (String × Shape) → Entries Json
  | [] => []
  | (name, shape) :: rest => (name, shape.standIn home label name) :: standInOf home label rest

def standInEach (home label : String) (index : Nat) : List Shape → List Json
  | [] => []
  | shape :: rest =>
    shape.standIn home label (toString index) :: standInEach home label (index + 1) rest

end

/-- The component of an object node at the position `label`. -/
def component (home label : String) (required : List Json) (properties : List (String × Shape)) :
    Registration :=
  ⟨.schemas, join home label, objectOf required (standInOf home label properties)⟩

mutual

/-- The components of the object nodes of a schema, inner nodes before outer ones. -/
def components (home label name : String) : Shape → List Registration
  | .object required properties =>
    componentsOf home (join label name) properties ++
      [component home (join label name) required properties]
  | .array none => []
  | .array (some items) => items.components home (join label "array") "items"
  | .oneOf alternatives => componentsEach home (join label "oneOf") 0 alternatives
  | .primitive _ _ => []
termination_by structural shape => shape

def componentsOf (home label : String) : List (String × Shape) → List Registration
  | [] => []
  | (name, shape) :: rest => shape.components home label name ++ componentsOf home label rest

def componentsEach (home label : String) (index : Nat) : List Shape → List Registration
  | [] => []
  | shape :: rest =>
    shape.components home label (toString index) ++ componentsEach home label (index + 1) rest

end

/-- Induction over the schemas in a shape. -/
@[induction_eliminator]
theorem induction {P : Shape → Prop}
    (object : ∀ required properties, (∀ property ∈ properties, P property.2) →
      P (.object required properties))
    (empty : P (.array none))
    (array : ∀ items, P items → P (.array (some items)))
    (oneOf : ∀ alternatives, (∀ alternative ∈ alternatives, P alternative) →
      P (.oneOf alternatives))
    (primitive : ∀ type title, P (.primitive type title)) : (shape : Shape) → P shape
  | .object required properties => object required properties fun property _ =>
      induction object empty array oneOf primitive property.2
  | .array none => empty
  | .array (some items) => array items (induction object empty array oneOf primitive items)
  | .oneOf alternatives => oneOf alternatives fun alternative _ =>
      induction object empty array oneOf primitive alternative
  | .primitive type title => primitive type title
termination_by shape => sizeOf shape
decreasing_by
  · have := List.sizeOf_lt_of_mem ‹property ∈ properties›
    obtain ⟨name, inner⟩ := property
    simp only [Prod.mk.sizeOf_spec, Shape.object.sizeOf_spec] at this ⊢
    omega
  · simp only [Shape.array.sizeOf_spec, Option.some.sizeOf_spec]
    omega
  · have := List.sizeOf_lt_of_mem ‹alternative ∈ alternatives›
    simp only [Shape.oneOf.sizeOf_spec]
    omega

theorem standInOf_eq (home label : String) (properties : List (String × Shape)) :
    standInOf home label properties =
      properties.map fun (name, shape) => (name, shape.standIn home label name) := by
  induction properties with
  | nil => rfl
  | cons property rest ih => simp [standInOf, ih]

theorem standInEach_eq (home label : String) (index : Nat) (alternatives : List Shape) :
    standInEach home label index alternatives =
      (alternatives.zipIdx index).map fun (shape, i) => shape.standIn home label (toString i) := by
  induction alternatives generalizing index with
  | nil => rfl
  | cons shape rest ih => simp [standInEach, ih]

theorem componentsOf_eq (home label : String) (properties : List (String × Shape)) :
    componentsOf home label properties =
      properties.flatMap fun (name, shape) => shape.components home label name := by
  induction properties with
  | nil => rfl
  | cons property rest ih => simp [componentsOf, ih]

theorem componentsEach_eq (home label : String) (index : Nat) (alternatives : List Shape) :
    componentsEach home label index alternatives =
      (alternatives.zipIdx index).flatMap
        fun (shape, i) => shape.components home label (toString i) := by
  induction alternatives generalizing index with
  | nil => rfl
  | cons shape rest ih => simp [componentsEach, ih]

end Shape

open Shape

mutual

/-- Placing a schema is registering its components and answering what stands for it. -/
theorem place_eq (home label name : String) : (shape : Shape) →
    place home label name shape = do
      registerAll (shape.components home label name)
      return shape.standIn home label name
  | .object required properties => by
    simp only [place, standIn, Shape.components, placeProperties_eq, registerAll_append,
      register_eq, component, reference_join, bind_assoc, pure_bind]
  | .array none => by simp only [place, standIn, Shape.components, registerAll, pure_bind]
  | .array (some items) => by
    simp only [place, standIn, Shape.components, place_eq home (join label "array") "items" items,
      bind_assoc, pure_bind]
  | .oneOf alternatives => by
    simp only [place, standIn, Shape.components, placeAlternatives_eq home (join label "oneOf") 0,
      bind_assoc, pure_bind]
  | .primitive type title => by
    simp only [place, standIn, Shape.components, registerAll, pure_bind]
termination_by structural shape => shape

theorem placeProperties_eq (home label : String) : (properties : List (String × Shape)) →
    placeProperties home label properties = do
      registerAll (componentsOf home label properties)
      return standInOf home label properties
  | [] => by simp only [placeProperties, componentsOf, standInOf, registerAll, pure_bind]
  | (name, shape) :: rest => by
    simp only [placeProperties, componentsOf, standInOf, registerAll_append, bind_assoc, pure_bind,
      place_eq home label name shape, placeProperties_eq home label rest]

theorem placeAlternatives_eq (home label : String) (index : Nat) : (alternatives : List Shape) →
    placeAlternatives home label index alternatives = do
      registerAll (componentsEach home label index alternatives)
      return standInEach home label index alternatives
  | [] => by simp only [placeAlternatives, componentsEach, standInEach, registerAll, pure_bind]
  | shape :: rest => by
    simp only [placeAlternatives, componentsEach, standInEach, registerAll_append, bind_assoc,
      pure_bind, place_eq home label (toString index) shape,
      placeAlternatives_eq home label (index + 1) rest]

end

end RouteDoc.Component
