import Mathlib.Logic.Relation
import RouteDoc.Proofs.Component.Home
import RouteDoc.Proofs.Component.Traversal

namespace RouteDoc.Component

section Names

variable {first second third : String}

theorem Under.trans (hf : Under first second) (hs : Under second third) : Under first third := by
  obtain ⟨label, rfl⟩ := hf
  exact hs.of_join

/-- What lies under a name is longer. -/
theorem Under.length_lt (h : Under first second) : first.length < second.length := by
  obtain ⟨label, rfl⟩ := h
  have hdot : ".".length = 1 := rfl
  simp only [String.length_append, hdot]
  omega

theorem Under.ne (h : Under first second) : first ≠ second := by
  intro he
  subst he
  exact Nat.lt_irrefl _ h.length_lt

theorem under_child (home label name : String) :
    Under (home ++ "." ++ label) (home ++ "." ++ (label ++ "." ++ name)) :=
  ⟨name, by simp only [String.append_assoc]⟩

end Names

/-- What may stand for a schema in the component of this name: a reference to a name under it, a
list of such, a choice among such, or a leaf that is neither an object nor a list. -/
inductive Shallow (owner : String) : Json → Prop
  | link {name : String} : Under owner name →
      Shallow owner (.object [("$ref", .string ("#/components/schemas/" ++ name))])
  | openList : Shallow owner (.object [("type", .string "array"), ("items", .object [])])
  | list {items : Json} : Shallow owner items →
      Shallow owner (.object [("type", .string "array"), ("items", items)])
  | choice {alternatives : List Json} : (∀ value ∈ alternatives, Shallow owner value) →
      Shallow owner (.object [("oneOf", .array alternatives)])
  | plain {type description : Entries Json} (title : String) :
      (type = [] ∨ ∃ key, key ≠ "object" ∧ key ≠ "array" ∧ type = [("type", .string key)]) →
      (description = [] ∨ ∃ text, description = [("description", text)]) →
      Shallow owner (.object (type ++ [("title", .string title)] ++ description))

/-- The values at the property, `items` and `oneOf` positions of a component. -/
inductive Member (component : Json) : Json → Prop
  | property {name : String} {value : Json} :
      (name, value) ∈ component.entriesAt "properties" → Member component value
  | items {value inner : Json} : Member component value → value.get? "items" = some inner →
      Member component inner
  | alternative {value inner : Json} {alternatives : List Json} : Member component value →
      value.get? "oneOf" = some (.array alternatives) → inner ∈ alternatives →
      Member component inner

namespace Shallow

theorem mono {inner outer : String} {value : Json} (hu : Under outer inner)
    (h : Shallow inner value) : Shallow outer value := by
  induction h with
  | link hn => exact .link (hu.trans hn)
  | openList => exact .openList
  | list _ ih => exact .list ih
  | choice _ ih => exact .choice ih
  | plain title ht hd => exact .plain title ht hd

/-- What a shallow value may have under a key. -/
def Holds (owner : String) : String → Json → Prop
  | "$ref", target =>
    ∃ name, Under owner name ∧ target = .string ("#/components/schemas/" ++ name)
  | "type", type => type ≠ .string "object"
  | "items", items => Shallow owner items ∨ items = .object []
  | "oneOf", alternatives => ∀ values, alternatives = .array values →
      ∀ value ∈ values, Shallow owner value
  | _, _ => True

theorem holds {owner key : String} {value inner : Json} (h : Shallow owner value)
    (hg : value.get? key = some inner) : Holds owner key inner := by
  cases h with
  | @link name hn =>
    have hm : (key, inner) ∈ [("$ref", Json.string ("#/components/schemas/" ++ name))] :=
      Entries.mem_of_get? hg
    cases List.mem_singleton.mp hm
    exact ⟨name, hn, rfl⟩
  | openList =>
    have hm : (key, inner) ∈ [("type", Json.string "array"), ("items", Json.object [])] :=
      Entries.mem_of_get? hg
    rcases List.mem_cons.mp hm with he | hm
    · cases he
      simp [Holds]
    · cases List.mem_singleton.mp hm
      exact Or.inr rfl
  | @list items hs =>
    have hm : (key, inner) ∈ [("type", Json.string "array"), ("items", items)] :=
      Entries.mem_of_get? hg
    rcases List.mem_cons.mp hm with he | hm
    · cases he
      simp [Holds]
    · cases List.mem_singleton.mp hm
      exact Or.inl hs
  | @choice alternatives hs =>
    have hm : (key, inner) ∈ [("oneOf", Json.array alternatives)] := Entries.mem_of_get? hg
    cases List.mem_singleton.mp hm
    intro values he
    cases he
    exact hs
  | @plain type description title ht hd =>
    have hm : (key, inner) ∈ type ++ [("title", Json.string title)] ++ description :=
      Entries.mem_of_get? hg
    rw [List.mem_append, List.mem_append, List.mem_singleton] at hm
    rcases hm with (hm | he) | hm
    · rcases ht with rfl | ⟨declared, ho, _, rfl⟩
      · cases hm
      · cases List.mem_singleton.mp hm
        exact fun he => ho (Json.string.inj he)
    · cases he
      trivial
    · rcases hd with rfl | ⟨text, rfl⟩
      · cases hm
      · cases List.mem_singleton.mp hm
        trivial

theorem leafTree {owner : String} {type : Option String} (name : String) (schema : Json)
    (ht : ∀ key ∈ type, key ≠ "object" ∧ key ≠ "array") :
    Shallow owner (Component.leafTree type name schema) := by
  unfold Component.leafTree
  cases type with
  | none =>
    dsimp only
    split
    · exact @plain owner [] [] name (.inl rfl) (.inl rfl)
    · exact @plain owner [] [] name (.inl rfl) (.inl rfl)
    · exact @plain owner [] _ name (.inl rfl) (.inr ⟨_, rfl⟩)
  | some key =>
    obtain ⟨ho, ha⟩ := ht key rfl
    have htype : [("type", Json.string key)] = [] ∨ ∃ declared, declared ≠ "object" ∧
        declared ≠ "array" ∧ [("type", Json.string key)] = [("type", .string declared)] :=
      .inr ⟨key, ho, ha, rfl⟩
    dsimp only
    split
    · exact @plain owner _ [] name htype (.inl rfl)
    · exact @plain owner _ [] name htype (.inl rfl)
    · exact @plain owner _ _ name htype (.inr ⟨_, rfl⟩)

end Shallow

theorem shallow_replacement {home : String} (schema : Json) : ∀ {label name : String},
    Shallow (home ++ "." ++ label) (replacement home label name schema) := by
  induction schema using node_induction with
  | step schema ih =>
    intro label name
    rw [replacement_eq]
    cases hk : nodeKind schema with
    | object =>
      have htarget : "#/components/schemas/" ++ home ++ "." ++ (label ++ "." ++ name) =
          "#/components/schemas/" ++ (home ++ "." ++ (label ++ "." ++ name)) := by
        simp only [String.append_assoc]
      dsimp only
      rw [htarget]
      exact .link (under_child home label name)
    | array items =>
      cases items with
      | none => exact .openList
      | some items =>
        have hb : items ∈ below schema := mem_below_of_items hk
        have hu : Under (home ++ "." ++ label) (home ++ "." ++ (label ++ ".array")) := by
          rw [← join_array]
          exact under_child home label "array"
        exact .list ((ih items hb).mono hu)
    | oneOf alternatives =>
      apply Shallow.choice
      intro value hm
      obtain ⟨entry, he, rfl⟩ := List.mem_map.mp hm
      have hb : entry.1 ∈ below schema := mem_below_of_alternative hk he
      have hu : Under (home ++ "." ++ label) (home ++ "." ++ (label ++ ".oneOf")) := by
        rw [← join_oneOf]
        exact under_child home label "oneOf"
      exact (ih entry.1 hb).mono hu
    | primitive type => exact .leafTree name schema (type_ne_of_kind hk)

/-- Wherever one looks in a component with shallow members, there is a shallow value or an item of
which nothing is said. -/
theorem shallow_of_member {owner : String} {component value : Json}
    (hp : ∀ entry ∈ component.entriesAt "properties", Shallow owner entry.2)
    (h : Member component value) : Shallow owner value ∨ value = .object [] := by
  induction h with
  | @property name value hm => exact Or.inl (hp (name, value) hm)
  | items _ hi ih =>
    rcases ih with hs | rfl
    · exact hs.holds hi
    · cases hi
  | alternative _ ho hm ih =>
    rcases ih with hs | rfl
    · exact Or.inl (hs.holds ho _ rfl _ hm)
    · cases ho

/-- The component is an object with shallow members. No object is nested in it, and its references
go to names under its own. -/
structure IsShallow (entry : Registration) : Prop where
  place : entry.place = .schemas
  form : ∃ required properties : Entries Json,
    (required = [] ∨ ∃ first rest, required = [("required", .array (first :: rest))]) ∧
    entry.value = .object
      ([("type", .string "object")] ++ required ++ [("properties", .object properties)]) ∧
    ∀ member ∈ properties, Shallow entry.name member.2
  flat : ∀ value, Member entry.value value → value.get? "type" ≠ some (.string "object")
  references : ∀ value, Member entry.value value → ∀ target, value.get? "$ref" = some target →
    ∃ name, Under entry.name name ∧ target = .string ("#/components/schemas/" ++ name)

theorem objectTree_form (schema : Json) (members : Entries Json) : ∃ required : Entries Json,
    (required = [] ∨ ∃ first rest, required = [("required", .array (first :: rest))]) ∧
      objectTree schema members = .object
        ([("type", .string "object")] ++ required ++ [("properties", .object members)]) := by
  unfold objectTree
  split
  · rename_i first rest _
    exact ⟨[("required", .array (first :: rest))], .inr ⟨first, rest, rfl⟩, rfl⟩
  · exact ⟨[], .inl rfl, rfl⟩

theorem entriesAt_objectTree (schema : Json) (members : Entries Json) :
    (objectTree schema members).entriesAt "properties" = members := by
  unfold objectTree
  split <;> rfl

theorem isShallow_component (home : String) (spot : Spot) : IsShallow (spot.component home) := by
  have hmembers : ∀ entry ∈ (spot.component home).value.entriesAt "properties",
      Shallow (spot.component home).name entry.2 := by
    intro entry hm
    rw [Spot.component, entriesAt_objectTree] at hm
    obtain ⟨property, _, rfl⟩ := List.mem_map.mp hm
    exact shallow_replacement property.2
  obtain ⟨required, hr, hform⟩ := objectTree_form spot.node _
  refine ⟨rfl, ⟨required, _, hr, hform, ?_⟩, ?_, ?_⟩
  · rw [Spot.component, entriesAt_objectTree] at hmembers
    exact hmembers
  · intro value hm ht
    rcases shallow_of_member hmembers hm with hs | rfl
    · exact hs.holds ht rfl
    · cases ht
  · intro value hm target hr
    rcases shallow_of_member hmembers hm with hs | rfl
    · exact hs.holds hr
    · cases hr

/-- Some decomposition registers a component of the first name that refers to the second. -/
def LinksTo (first second : String) : Prop :=
  ∃ schema home label, ∃ entry ∈ cut schema home label, entry.name = first ∧
    ∃ value, Member entry.value value ∧
      value.get? "$ref" = some (.string ("#/components/schemas/" ++ second))

theorem isShallow_of_mem_cut {schema : Json} {home label : String} {entry : Registration}
    (h : entry ∈ cut schema home label) : IsShallow entry := by
  obtain ⟨spot, _, rfl⟩ := mem_cut.mp h
  exact isShallow_component home spot

theorem LinksTo.under {first second : String} (h : LinksTo first second) : Under first second := by
  obtain ⟨schema, home, label, entry, hm, rfl, value, hv, hr⟩ := h
  obtain ⟨name, hu, he⟩ := (isShallow_of_mem_cut hm).references value hv _ hr
  obtain rfl := (String.append_right_inj _).mp (Json.string.inj he)
  exact hu

/-- Each further reference leads to a name under the first. -/
theorem under_of_transGen {first second : String} (h : Relation.TransGen LinksTo first second) :
    Under first second := by
  induction h with
  | single hl => exact hl.under
  | tail _ hl ih => exact ih.trans hl.under

/-- Decomposition adds its components up to the first that is refused. -/
theorem exists_added (schema : Json) (home label : String) (registry : Registry) :
    ∃ added, Registry.addAll added registry =
      (.ok (), ((decompose schema home label).run.run registry).2) ∧
        added <+: cut schema home label := by
  rcases run_decompose_cases schema home label registry with
    ⟨after, ha, hrun⟩ | ⟨before, entry, rest, middle, hl, hb, _, hrun⟩
  · exact ⟨cut schema home label, by rw [ha, hrun], List.prefix_refl _⟩
  · exact ⟨before, by rw [hb, hrun], by rw [hl]; exact List.prefix_append _ _⟩

/-- A decomposition leaves the registry with components added that are shallow objects and refer
only to names under their own. So references among components never lead back to where they began,
even if all versions of a component count that any decomposition ever registered. -/
theorem decompose_shallow_acyclic :
    (∀ schema home label (registry : Registry), ∃ added,
      Registry.addAll added registry =
        (.ok (), ((decompose schema home label).run.run registry).2) ∧
      added <+: cut schema home label ∧ (∀ entry ∈ added, IsShallow entry) ∧
      ∀ entry ∈ ((decompose schema home label).run.run registry).2.schemas,
        entry ∈ registry.schemas ∨
          IsShallow ⟨.schemas, entry.1, entry.2⟩ ∧ ∀ value second, Member entry.2 value →
            value.get? "$ref" = some (.string ("#/components/schemas/" ++ second)) →
            LinksTo entry.1 second) ∧
    ∀ name, ¬Relation.TransGen LinksTo name name := by
  constructor
  · intro schema home label registry
    obtain ⟨added, hadd, hp⟩ := exists_added schema home label registry
    have hs : ∀ entry ∈ added, IsShallow entry :=
      fun entry hm => isShallow_of_mem_cut (hp.subset hm)
    refine ⟨added, hadd, hp, hs, fun entry hm => ?_⟩
    have hentry : entry ∈ registry.entries .schemas ∨ ⟨.schemas, entry.1, entry.2⟩ ∈ added :=
      Registry.mem_entries_addAll hadd hm
    refine hentry.imp_right fun hm => ⟨hs _ hm, fun value second hv hr => ?_⟩
    exact ⟨schema, home, label, _, hp.subset hm, rfl, value, hv, hr⟩
  · intro name hcycle
    exact (under_of_transGen hcycle).ne rfl

/-- The components of an order are shallow, and the last one refers to the first. -/
theorem decompose_shallow_acyclic_order :
    ((decompose orderSchema "shop.post" "body").run.run {}).2.schemas = orderComponents ∧
    (∀ entry ∈ orderComponents, IsShallow ⟨.schemas, entry.1, entry.2⟩) ∧
    LinksTo "shop.post.body" "shop.post.body.owner" ∧
    ¬Relation.TransGen LinksTo "shop.post.body" "shop.post.body" := by
  obtain ⟨hshallow, hacyclic⟩ := decompose_shallow_acyclic
  obtain ⟨added, _, _, _, hentries⟩ := hshallow orderSchema "shop.post" "body" {}
  have hschemas : ((decompose orderSchema "shop.post" "body").run.run {}).2.schemas =
      orderComponents := rfl
  rw [hschemas] at hentries
  have hlast : orderComponents[3] ∈ orderComponents := List.getElem_mem _
  have howner : Member orderComponents[3].2
      (.object [("$ref", .string "#/components/schemas/shop.post.body.owner")]) :=
    @Member.property _ "owner" _ List.mem_cons_self
  refine ⟨hschemas, fun entry hm => ?_, ?_, hacyclic _⟩
  · exact ((hentries entry hm).resolve_left List.not_mem_nil).1
  · exact ((hentries _ hlast).resolve_left List.not_mem_nil).2 _ _ howner rfl

end RouteDoc.Component
