import RouteDoc.Proofs.Component.Addition

namespace RouteDoc.Component

/-- The schema component that a reference names. -/
def Registry.named? (registry : Registry) (target : String) : Option Json :=
  (registry.schemas.find? fun entry => "#/components/schemas/" ++ entry.1 = target).map Prod.snd

theorem named?_schemas (registry : Registry) (name : String) :
    registry.named? ("#/components/schemas/" ++ name) = registry.get? .schemas name := by
  unfold Registry.named? Registry.get? Registry.entries
  induction registry.schemas with
  | nil => rfl
  | cons entry rest ih =>
    obtain ⟨key, value⟩ := entry
    by_cases h : key = name
    · simp [Entries.get?, h]
    · have hne : "#/components/schemas/" ++ key ≠ "#/components/schemas/" ++ name :=
        fun he => h ((String.append_right_inj _).mp he)
      simpa [Entries.get?, h, hne] using ih

theorem named?_target (registry : Registry) (home : String) (spot : Spot) :
    registry.named? (spot.target home) =
      registry.get? .schemas (spot.component home).name := by
  rw [Spot.target_eq, named?_schemas]

def inlineEntry (inline : Json → Option Json) (entry : String × Json) : Option (String × Json) :=
  (inline entry.2).map (entry.1, ·)

/-- The positions below which references are replaced. -/
def inlineUnder (inline : Json → Option Json) : String → Json → Option Json
  | "properties", .object members => (members.mapM (inlineEntry inline)).map .object
  | "items", items => inline items
  | "oneOf", .array alternatives => (alternatives.mapM inline).map .array
  | _, value => some value

/-- Replaces each reference at a property, `items` or `oneOf` position by the component it names,
and goes on in the component. There is no answer if a reference names nothing or the fuel ends. -/
def inline (registry : Registry) : Nat → Json → Option Json
  | 0, _ => none
  | fuel + 1, .object members =>
    match Entries.get? "$ref" members with
    | some (.string target) => (registry.named? target).bind (inline registry fuel)
    | _ => (members.mapM fun member =>
        inlineEntry (inlineUnder (inline registry fuel) member.1) member).map .object
  | _ + 1, value => some value

/-- What decomposition keeps of a schema called `name`, as one tree. -/
def simplified (name : String) (schema : Json) : Json :=
  match _hk : nodeKind schema with
  | .object => objectTree schema ((schema.entriesAt "properties").attach.map
      fun ⟨(key, inner), _⟩ => (key, simplified key inner))
  | .array none => .object [("type", .string "array"), ("items", .object [])]
  | .array (some items) => .object [("type", .string "array"), ("items", simplified "items" items)]
  | .oneOf alternatives => .object [("oneOf",
      .array (alternatives.zipIdx.attach.map fun ⟨(inner, index), _⟩ =>
        simplified (toString index) inner))]
  | .primitive type => leafTree type name schema
termination_by sizeOf schema
decreasing_by
  all_goals apply sizeOf_below
  · exact mem_below_of_property ‹_› ‹(key, inner) ∈ _›
  · exact mem_below_of_items ‹_›
  · exact mem_below_of_alternative ‹_› ‹(inner, index) ∈ _›

/-- The simplified tree of a schema that is taken as an object whatever its type says. -/
def simplifiedObject (schema : Json) : Json :=
  objectTree schema
    ((schema.entriesAt "properties").map fun (key, inner) => (key, simplified key inner))

theorem simplified_eq (name : String) (schema : Json) : simplified name schema =
    match nodeKind schema with
    | .object => simplifiedObject schema
    | .array none => .object [("type", .string "array"), ("items", .object [])]
    | .array (some items) => .object [("type", .string "array"),
        ("items", simplified "items" items)]
    | .oneOf alternatives => .object [("oneOf",
        .array (alternatives.zipIdx.map fun (inner, index) => simplified (toString index) inner))]
    | .primitive type => leafTree type name schema := by
  rw [simplified]
  split <;> simp only [*, simplifiedObject, List.map_attach_eq_pmap, List.pmap_eq_map]

/-- With enough fuel, replacing all references in the value ends and gives the tree. -/
def Inlines (registry : Registry) (value tree : Json) : Prop :=
  ∃ least, ∀ fuel ≥ least, inline registry fuel value = some tree

/-- One bound serves all elements of a list. -/
theorem eventually_mapM {α β γ : Type} {values : List α} {source : α → β} {image : α → γ}
    {f : Nat → β → Option γ}
    (h : ∀ value ∈ values, ∃ least, ∀ fuel ≥ least, f fuel (source value) = some (image value)) :
    ∃ least, ∀ fuel ≥ least, (values.map source).mapM (f fuel) = some (values.map image) := by
  induction values with
  | nil => exact ⟨0, fun fuel _ => rfl⟩
  | cons value rest ih =>
    obtain ⟨first, hfirst⟩ := h value List.mem_cons_self
    obtain ⟨others, hothers⟩ := ih fun other ho => h other (List.mem_cons_of_mem _ ho)
    refine ⟨max first others, fun fuel hf => ?_⟩
    simp [hfirst fuel (by omega), hothers fuel (by omega)]

namespace Inlines

variable {registry : Registry} {value tree : Json}

/-- One unit of fuel pays for the value itself. -/
theorem of_succ (least : Nat)
    (h : ∀ fuel ≥ least, inline registry (fuel + 1) value = some tree) :
    Inlines registry value tree := by
  refine ⟨least + 1, fun fuel hf => ?_⟩
  obtain ⟨rest, rfl⟩ : ∃ rest, fuel = rest + 1 := ⟨fuel - 1, by omega⟩
  exact h rest (by omega)

theorem reference {target : String} (hn : registry.named? target = some value)
    (h : Inlines registry value tree) :
    Inlines registry (.object [("$ref", .string target)]) tree := by
  obtain ⟨least, hl⟩ := h
  apply of_succ least
  intro fuel hf
  simp [inline, Entries.get?, hn, hl fuel hf]

theorem list (h : Inlines registry value tree) :
    Inlines registry (.object [("type", .string "array"), ("items", value)])
      (.object [("type", .string "array"), ("items", tree)]) := by
  obtain ⟨least, hl⟩ := h
  apply of_succ least
  intro fuel hf
  simp [inline, Entries.get?, inlineEntry, inlineUnder, hl fuel hf]

theorem empty : Inlines registry (.object []) (.object []) :=
  of_succ 0 fun _ _ => rfl

theorem leafTree (type : Option String) (name : String) (schema : Json) :
    Inlines registry (Component.leafTree type name schema)
      (Component.leafTree type name schema) := by
  apply of_succ 0
  intro fuel _
  unfold Component.leafTree
  cases type <;> dsimp only <;> split <;>
    simp [inline, Entries.get?, inlineEntry, inlineUnder]

theorem oneOf {α : Type} {values : List α} {source image : α → Json}
    (h : ∀ value ∈ values, Inlines registry (source value) (image value)) :
    Inlines registry (.object [("oneOf", .array (values.map source))])
      (.object [("oneOf", .array (values.map image))]) := by
  obtain ⟨least, hl⟩ := eventually_mapM h
  apply of_succ least
  intro fuel hf
  simp [inline, Entries.get?, inlineEntry, inlineUnder, hl fuel hf]

theorem objectTree {schema : Json} {entries : List (String × Json)}
    {source image : String × Json → Json}
    (h : ∀ entry ∈ entries, Inlines registry (source entry) (image entry)) :
    Inlines registry (Component.objectTree schema (entries.map fun e => (e.1, source e)))
      (Component.objectTree schema (entries.map fun e => (e.1, image e))) := by
  have hentry : ∀ entry ∈ entries, ∃ least, ∀ fuel ≥ least,
      inlineEntry (inline registry fuel) (entry.1, source entry) = some (entry.1, image entry) := by
    intro entry hm
    obtain ⟨least, hl⟩ := h entry hm
    exact ⟨least, fun fuel hf => by simp [inlineEntry, hl fuel hf]⟩
  obtain ⟨least, hl⟩ := eventually_mapM hentry
  apply of_succ least
  intro fuel hf
  have hp := hl fuel hf
  unfold Component.objectTree
  split <;> simp [inline, Entries.get?, inlineEntry, inlineUnder, hp]

end Inlines

/-- Every node of the list has its component where its reference leads. -/
def HoldsAll (registry : Registry) (home : String) (spots : List Spot) : Prop :=
  ∀ spot ∈ spots, registry.named? (spot.target home) = some (spot.component home).value

/-- Where the registry holds all components of a schema, what stands for the schema inlines to its
simplified tree. -/
theorem inlines_replacement {registry : Registry} (schema : Json) : ∀ {home label name : String},
    HoldsAll registry home ((Spot.outermost label name schema).flatMap Spot.nodes) →
      Inlines registry (replacement home label name schema) (simplified name schema) := by
  induction schema using node_induction with
  | step schema ih =>
    intro home label name h
    rw [replacement_eq, simplified_eq]
    rw [Spot.outermost_eq] at h
    cases hk : nodeKind schema with
    | object =>
      simp only [hk, List.flatMap_cons, List.flatMap_nil, List.append_nil] at h
      have hself := h _ (Spot.mem_nodes_self _)
      refine Inlines.reference hself (Inlines.objectTree fun entry hm => ?_)
      have hb : entry.2 ∈ below schema := mem_below_of_property hk hm
      refine ih entry.2 hb fun spot hs => h spot ?_
      rw [Spot.nodes_eq, Spot.inner, List.flatMap_assoc]
      exact List.mem_append_left _ (List.mem_flatMap.mpr ⟨entry, hm, hs⟩)
    | array items =>
      cases items with
      | none => exact Inlines.list Inlines.empty
      | some items =>
        simp only [hk] at h
        exact Inlines.list (ih items (mem_below_of_items hk) h)
    | oneOf alternatives =>
      simp only [hk, List.flatMap_assoc] at h
      refine Inlines.oneOf fun entry hm => ?_
      have hb : entry.1 ∈ below schema := mem_below_of_alternative hk hm
      exact ih entry.1 hb fun spot hs => h spot (List.mem_flatMap.mpr ⟨entry, hm, hs⟩)
    | primitive type => exact Inlines.leafTree type name schema

theorem nodup_cut_keys (schema : Json) (home label : String) :
    ((cut schema home label).map Registration.key).Nodup ↔
      ((cut schema home label).map Registration.name).Nodup := by
  have hk : (cut schema home label).map Registration.key =
      ((cut schema home label).map Registration.name).map (Prod.mk .schemas) := by
    rw [List.map_map]
    exact List.map_congr_left fun entry hm => Prod.ext (place_cut entry hm) rfl
  simp [hk, List.Nodup, List.pairwise_map]

/-- A successful decomposition registers the schema's components in order. When their names are
distinct, as they are under the failing policy, inlining the answered reference in the registry
that is left gives back the simplified tree of the schema. -/
theorem decompose_inlines {schema : Json} {home label target : String} {registry after : Registry}
    (hrun : (decompose schema home label).run.run registry = (.ok target, after)) :
    (registerAll (cut schema home label)).run.run registry = (.ok (), after) ∧
      (registry.policy = .fail → ((cut schema home label).map Registration.name).Nodup) ∧
      (((cut schema home label).map Registration.name).Nodup →
        Inlines after (.object [("$ref", .string target)]) (simplifiedObject schema)) := by
  obtain ⟨rfl, hadd⟩ := decompose_ok hrun
  refine ⟨(run_registerAll _ _).trans hadd, fun hp => ?_, fun hd => ?_⟩
  · exact (nodup_cut_keys schema home label).mp (Registry.nodup_of_addAll hp hadd).1
  · have hall : HoldsAll after home (Spot.nodes ⟨label, schema⟩) := by
      intro spot hs
      have hm : spot.component home ∈ cut schema home label := List.mem_map_of_mem hs
      have hl := latest_of_mem ((nodup_cut_keys schema home label).mpr hd) hm
      rw [place_cut _ hm] at hl
      rw [named?_target, Registry.get?_addAll hadd, hl, Option.some_or]
    have hself := hall _ (Spot.mem_nodes_self _)
    refine Inlines.reference hself (Inlines.objectTree fun entry hm => ?_)
    refine inlines_replacement entry.2 fun spot hs => hall spot ?_
    rw [Spot.nodes_eq, Spot.inner, List.flatMap_assoc]
    exact List.mem_append_left _ (List.mem_flatMap.mpr ⟨entry, hm, hs⟩)

theorem simplified_owner : simplified "owner" ownerSchema = .object [("type", .string "object"),
    ("properties", .object [("name", .object [("title", .string "name"),
      ("description", .string "Name")])])] := by
  rw [simplified_eq]
  change Json.object [("type", _), ("properties", .object [("name", simplified _ _)])] = _
  rw [simplified_eq]
  rfl

theorem simplified_grid : simplified "grid" gridSchema = .object [("type", .string "array"),
    ("items", .object [("type", .string "array"),
      ("items", .object [("type", .string "object"), ("properties", .object [])])])] := by
  rw [simplified_eq]
  change Json.object [("type", _), ("items", simplified _ _)] = _
  rw [simplified_eq]
  change Json.object [("type", _), ("items", .object [("type", _), ("items", simplified _ _)])] = _
  rw [simplified_eq]
  rfl

theorem simplified_contact : simplified "contact" contactSchema = .object [("oneOf", .array [
    .object [("type", .string "string"), ("title", .string "0")],
    .object [("type", .string "object"), ("properties", .object [])]])] := by
  rw [simplified_eq]
  change Json.object [("oneOf", .array [simplified _ _, simplified _ _])] = _
  rw [simplified_eq, simplified_eq]
  rfl

theorem decompose_inlines_order : ∃ after,
    (decompose orderSchema "shop.post" "body").run.run { policy := .fail } =
        (.ok "#/components/schemas/shop.post.body", after) ∧
      Inlines after (.object [("$ref", .string "#/components/schemas/shop.post.body")])
        (.object [("type", .string "object"), ("required", .array [.string "owner"]),
          ("properties", .object [
            ("owner", .object [("type", .string "object"), ("properties", .object [("name",
              .object [("title", .string "name"), ("description", .string "Name")])])]),
            ("grid", .object [("type", .string "array"), ("items", .object [
              ("type", .string "array"),
              ("items", .object [("type", .string "object"), ("properties", .object [])])])]),
            ("contact", .object [("oneOf", .array [
              .object [("type", .string "string"), ("title", .string "0")],
              .object [("type", .string "object"), ("properties", .object [])]])])])]) := by
  have hrun : (decompose orderSchema "shop.post" "body").run.run { policy := .fail } =
      (.ok "#/components/schemas/shop.post.body",
        ((decompose orderSchema "shop.post" "body").run.run { policy := .fail }).2) := by rfl
  have htree : simplifiedObject orderSchema = .object [("type", .string "object"),
      ("required", .array [.string "owner"]), ("properties", .object [
        ("owner", simplified "owner" ownerSchema), ("grid", simplified "grid" gridSchema),
        ("contact", simplified "contact" contactSchema)])] := rfl
  obtain ⟨-, hd, hi⟩ := decompose_inlines hrun
  rw [htree, simplified_owner, simplified_grid, simplified_contact] at hi
  exact ⟨_, hrun, hi (hd rfl)⟩

end RouteDoc.Component
