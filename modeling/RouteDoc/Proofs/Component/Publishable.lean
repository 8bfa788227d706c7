import RouteDoc.Check.Structure
import RouteDoc.Proofs.Component.Target
import RouteDoc.Proofs.Schema.Flat
import RouteDoc.Proofs.Text.Ascii

namespace RouteDoc.Component

open Check (isKeyChar isComponentKey)
open Schema (declaredType)
open Schema.SchemaObject (Flat typeKeys)

/-- The nodes that decomposition comes to from a node on. -/
inductive Within (root : Json) : Json → Prop
  | here : Within root root
  | next {node inner : Json} : Within root node → inner ∈ below node → Within root inner

theorem Within.of_below {root inner node : Json} (hb : inner ∈ Component.below root)
    (h : Within inner node) : Within root node := by
  induction h with
  | here => exact .next .here hb
  | next _ hm ih => exact .next ih hm

/-- Nothing is reached from a node that decomposition does not go below. -/
theorem Within.eq_of_below_nil {root node : Json} (h : Within root node)
    (hb : Component.below root = []) : node = root := by
  induction h with
  | here => rfl
  | next _ hm ih =>
    rw [ih, hb] at hm
    cases hm

/-- A declared type is one of the six, in any ASCII case. -/
def HasPlainType (schema : Json) : Prop :=
  ∀ text, schema.get? "type" = some (.string text) → text.toLower ∈ typeKeys

/-- Property names are component keys, and required names are distinct. -/
structure PlainObject (schema : Json) : Prop where
  names : ∀ entry ∈ schema.entriesAt "properties", isComponentKey entry.1
  required : schema.get? "required" = none ∨
    ∃ names : List String, names.Nodup ∧ schema.get? "required" = some (.array (names.map .string))

structure PlainNode (schema : Json) : Prop where
  type : HasPlainType schema
  title : ∀ title, schema.get? "title" = some title → title.isNull ∨ title.isString
  object : nodeKind schema = .object → PlainObject schema

/-- What is asked of a schema that is taken as an object and of all nodes below it. -/
structure Publishable (schema : Json) : Prop where
  object : PlainObject schema
  nodes : ∀ property ∈ schema.entriesAt "properties", ∀ node, Within property.2 node →
    PlainNode node

theorem typeKeys_ascii : ∀ key ∈ typeKeys, ∀ c ∈ key.toList, c.toNat < 128 := by
  simp [typeKeys]

theorem HasPlainType.declaredType {schema : Json} (h : HasPlainType schema) :
    ∀ key ∈ declaredType schema, key ∈ typeKeys := by
  intro key hk
  obtain ⟨text, ht, rfl⟩ := Option.map_eq_some_iff.mp hk
  obtain ⟨value, hv, hs⟩ := Option.bind_eq_some_iff.mp ht
  cases value with
  | string found =>
    cases hs
    have hm := h text hv
    rwa [Text.lower_eq_of_toLower (typeKeys_ascii _ hm) rfl]
  | _ => cases hs

theorem PlainObject.requiredOf {schema : Json} (h : PlainObject schema) :
    ∃ names : List String, names.Nodup ∧ requiredOf schema = names.map .string := by
  rcases h.required with hr | ⟨names, hn, hr⟩
  · exact ⟨[], List.nodup_nil, by simp [Component.requiredOf, hr]⟩
  · exact ⟨names, hn, by simp [Component.requiredOf, hr, Json.asArray?]⟩

theorem PlainNode.titleOf {schema : Json} (h : PlainNode schema) :
    ∀ text ∈ titleOf schema, text.isString := by
  intro text ht
  obtain ⟨hg, hn⟩ := Option.filter_eq_some_iff.mp ht
  refine (h.title text hg).resolve_left fun hnull => ?_
  rw [hnull] at hn
  cases hn

/-- What stands for a schema with plain nodes is flat. -/
theorem flat_replacement {home : String} (schema : Json) : ∀ {label name : String},
    (∀ node, Within schema node → PlainNode node) →
      Flat (replacement home label name schema) := by
  induction schema using node_induction with
  | step schema ih =>
    intro label name h
    rw [replacement_eq]
    have hbelow : ∀ inner ∈ below schema, ∀ node, Within inner node → PlainNode node :=
      fun inner hb node hw => h node (hw.of_below hb)
    cases hk : nodeKind schema with
    | object => exact .reference _
    | array items =>
      cases items with
      | none => exact .array .empty
      | some items =>
        have hb : items ∈ below schema := mem_below_of_items hk
        exact .array (ih items hb (hbelow items hb))
    | oneOf alternatives =>
      refine .oneOf fun alternative hm => ?_
      obtain ⟨entry, he, rfl⟩ := List.mem_map.mp hm
      have hb : entry.1 ∈ below schema := mem_below_of_alternative hk he
      exact ih entry.1 hb (hbelow entry.1 hb)
    | primitive type =>
      have hnode := h schema .here
      dsimp only
      rw [← leaf_titleOf, type_of_kind hk]
      exact .leaf hnode.type.declaredType hnode.titleOf

/-- The component of an object with plain nodes has distinct required names and flat members. -/
theorem exists_flat_component (home : String) {spot : Spot} (h : Publishable spot.node) :
    ∃ (names : List String) (properties : Entries Json), names.Nodup ∧
      (∀ entry ∈ properties, Flat entry.2) ∧
        (spot.component home).value = objectOf (names.map .string) properties := by
  obtain ⟨names, hn, hr⟩ := h.object.requiredOf
  refine ⟨names, _, hn, fun entry hm => ?_, by rw [← hr, objectOf_requiredOf]; rfl⟩
  obtain ⟨property, hp, rfl⟩ := List.mem_map.mp hm
  exact flat_replacement property.2 (h.nodes property hp)

/-- A text without characters that component keys exclude. -/
def IsKeyText (text : String) : Prop := ∀ c ∈ text.toList, isKeyChar c

theorem IsKeyText.of_all {text : String} (h : text.toList.all isKeyChar) : IsKeyText text :=
  List.all_eq_true.mp h

theorem isComponentKey_iff {text : String} : isComponentKey text ↔ text ≠ "" ∧ IsKeyText text := by
  simp [isComponentKey, IsKeyText]

theorem IsKeyText.append {first second : String} (hf : IsKeyText first) (hs : IsKeyText second) :
    IsKeyText (first ++ second) := by
  intro c hc
  rw [String.toList_append, List.mem_append] at hc
  exact hc.elim (hf c) (hs c)

theorem IsKeyText.join {home label : String} (hh : IsKeyText home) (hl : IsKeyText label) :
    IsKeyText (join home label) := by
  have hdot : IsKeyText "." := by
    intro c hc
    rw [List.mem_singleton.mp hc]
    decide
  exact (hh.append hdot).append hl

/-- Joined names have a dot, so they are never empty. -/
theorem isComponentKey_join {home label : String} (hh : IsKeyText home) (hl : IsKeyText label) :
    isComponentKey (join home label) := by
  refine isComponentKey_iff.mpr ⟨fun he => ?_, hh.join hl⟩
  have hchars := congrArg String.toList he
  simp [Component.join, String.toList_append] at hchars

theorem isKeyText_toString (index : Nat) : IsKeyText (toString index) := by
  intro c hc
  have hdigit : c.isDigit := Text.isDigit_of_mem_toString hc
  simp [isKeyChar, Char.isAlphanum, hdigit]

/-- A node under a label of key characters that is fit to be published. -/
structure Spot.Fit (spot : Spot) : Prop where
  label : IsKeyText spot.label
  node : Publishable spot.node

theorem fit_outermost {schema : Json} : ∀ {label name : String}, IsKeyText label →
    IsKeyText name → (∀ node, Within schema node → PlainNode node) →
      ∀ spot ∈ Spot.outermost label name schema, spot.Fit := by
  induction schema using node_induction with
  | step schema ih =>
    intro label name hl hn h spot hm
    have hbelow : ∀ inner ∈ below schema, ∀ node, Within inner node → PlainNode node :=
      fun inner hb node hw => h node (hw.of_below hb)
    rw [Spot.outermost_eq] at hm
    cases hk : nodeKind schema with
    | object =>
      rw [hk] at hm
      rw [List.mem_singleton.mp hm]
      refine ⟨hl.join hn, (h schema .here).object hk, fun property hp => ?_⟩
      exact hbelow property.2 (mem_below_of_property hk hp)
    | array items =>
      cases items with
      | none => simp [hk] at hm
      | some items =>
        simp only [hk] at hm
        have hb : items ∈ below schema := mem_below_of_items hk
        have harray : IsKeyText ".array" := IsKeyText.of_all (by decide)
        have hitems : IsKeyText "items" := IsKeyText.of_all (by decide)
        exact ih items hb (hl.append harray) hitems (hbelow items hb) spot hm
    | oneOf alternatives =>
      simp only [hk, List.mem_flatMap] at hm
      obtain ⟨entry, he, hm⟩ := hm
      have hb : entry.1 ∈ below schema := mem_below_of_alternative hk he
      have honeOf : IsKeyText ".oneOf" := IsKeyText.of_all (by decide)
      exact ih entry.1 hb (hl.append honeOf) (isKeyText_toString entry.2) (hbelow entry.1 hb) spot hm
    | primitive type => simp [hk] at hm

/-- All nodes below a fit one are fit. -/
theorem Spot.Fit.nodes {root : Spot} (h : root.Fit) : ∀ spot ∈ root.nodes, spot.Fit := by
  induction root with
  | step root ih =>
    intro spot hm
    rw [Spot.nodes_eq] at hm
    rcases List.mem_append.mp hm with hm | hm
    · obtain ⟨other, ho, hm⟩ := List.mem_flatMap.mp hm
      obtain ⟨property, hp, hs⟩ := List.mem_flatMap.mp ho
      have hname : IsKeyText property.1 :=
        (isComponentKey_iff.mp (h.node.object.names property hp)).2
      exact ih other ho (fit_outermost h.label hname (h.node.nodes property hp) other hs) spot hm
    · rw [List.mem_singleton.mp hm]
      exact h

/-- A publishable schema is cut into Schema Objects under component keys. -/
theorem exists_fit_of_mem_cut {schema : Json} {home label : String} (hs : Publishable schema)
    (hl : IsKeyText label) {entry : Registration} (hm : entry ∈ cut schema home label) :
    ∃ spot : Spot, spot.Fit ∧ entry = spot.component home := by
  obtain ⟨spot, hn, rfl⟩ := List.mem_map.mp hm
  exact ⟨spot, Spot.Fit.nodes ⟨hl, hs⟩ spot hn, rfl⟩

end RouteDoc.Component
