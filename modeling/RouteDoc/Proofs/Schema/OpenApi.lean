import RouteDoc.Proofs.Schema.Folding
import RouteDoc.Proofs.Schema.Lowering

namespace RouteDoc.Schema

open Downgrade
open SchemaObject (typeKeys)

namespace Vocabulary

/-- Keywords of a Schema Object. -/
def standard : Entries Form := shared ++ [
  ("type", .word typeKeys),
  ("exclusiveMinimum", .flag),
  ("exclusiveMaximum", .flag),
  ("example", .data),
  ("nullable", .flag)]

/-- Those keywords and the expression of a folded pattern, an extension. -/
def openApi : Vocabulary := ⟨standard ++ [(patternNote, .text)], false⟩

end Vocabulary

open Vocabulary (folded openApi)

namespace Form

def isNamed : Form → Bool
  | named _ => true
  | _ => false

def isDirect : Form → Bool
  | schema => true
  | schemaOrFlag => true
  | schemas => true
  | _ => false

end Form

section Lowering

variable {form : Form} {key : String} {value : Json} {members : Entries Json}

/-- A value keeps its form where the slots of lowering are those of the form. -/
theorem has_lowerChild (hn : namedSlots.contains key = form.isNamed)
    (hd : directSlots.contains key = form.isDirect) (h : form.has value = true) :
    form.has (lowerChild key value) = true := by
  unfold lowerChild
  rw [hn, hd]
  cases form with
  | named reserved =>
    obtain ⟨schemas, rfl⟩ := Form.exists_object h
    have hkeys : Entries.keys (downgradeEach schemas) = Entries.keys schemas := by
      rw [downgradeEach_eq]
      exact Entries.keys_map (fun _ => downgrade) schemas
    change (Form.named reserved).has (.object (downgradeEach schemas)) = true
    rw [Form.has, hkeys]
    exact h
  | schemas =>
    obtain ⟨items, rfl⟩ := Form.exists_array h
    rfl
  | schema | schemaOrFlag => rfl
  | _ => exact h

/-- The schemas in a value are lowered, and no others stand in it afterwards. -/
theorem schemasIn_lowerChild (hn : namedSlots.contains key = form.isNamed)
    (hd : directSlots.contains key = form.isDirect) (h : form.has value = true) :
    form.schemasIn (lowerChild key value) = (form.schemasIn value).map downgrade := by
  unfold lowerChild
  rw [hn, hd]
  cases form with
  | named reserved =>
    obtain ⟨schemas, rfl⟩ := Form.exists_object h
    change (downgradeEach schemas).map Prod.snd = (schemas.map Prod.snd).map downgrade
    rw [downgradeEach_eq, List.map_map, List.map_map]
    rfl
  | schemas =>
    obtain ⟨items, rfl⟩ := Form.exists_array h
    exact downgradeItems_eq items
  | schema => rfl
  | schemaOrFlag => cases value <;> rfl
  | _ => rfl

theorem slots_of_mem : ∀ entry ∈ folded.keywords,
    namedSlots.contains entry.1 = entry.2.isNamed ∧
      directSlots.contains entry.1 = entry.2.isDirect := by decide

theorem form_of_mem : ∀ entry ∈ folded.keywords,
    openApi.keywords.get? entry.1 = some entry.2 ∨ entry.1 ∈ ruled := by decide

end Lowering

section Node

variable {form : Form} {key : String} {keyword value : Json} {members : Entries Json}

/-- A folded member in which every schema is a standard one after lowering. -/
abbrev Lowerable : String × Json → Prop :=
  folded.Allows fun schema => Uses openApi (downgrade schema)

/-- A value in which no schema stands needs only the form of its keyword. -/
theorem allows_of_plain (hf : openApi.keywords.get? key = some form)
    (h : form.has value = true) (hs : form.schemasIn value = []) :
    openApi.Allows (Uses openApi) (key, value) :=
  ⟨form, hf, h, fun schema hm => by rw [hs] at hm; cases hm⟩

theorem allows_lowerChild (h : Lowerable (key, value)) (hk : key ∉ ruled) :
    openApi.Allows (Uses openApi) (key, lowerChild key value) := by
  obtain ⟨form, hform, hhas, hschemas⟩ := h
  have hmem := Entries.mem_of_get? hform
  obtain ⟨hn, hd⟩ := slots_of_mem _ hmem
  have hopen := (form_of_mem _ hmem).resolve_right hk
  refine ⟨form, hopen, has_lowerChild hn hd hhas, fun schema hs => ?_⟩
  rw [schemasIn_lowerChild hn hd hhas] at hs
  obtain ⟨before, hb, rfl⟩ := List.mem_map.mp hs
  exact hschemas before hb

theorem exists_concrete {type : Json} (h : type.asString?.any typeNames.contains = true)
    (hn : isNullType type = false) : ∃ name ∈ typeKeys, type = .string name := by
  cases type with
  | string name =>
    have hname : ∀ name ∈ typeNames, name ∈ typeKeys ∨ name = "null" := by decide
    refine ⟨name, (hname name (List.contains_iff_mem.mp h)).resolve_right ?_, rfl⟩
    rintro rfl
    cases hn
  | _ => cases h

theorem has_concrete {types : List Json} (h : (Form.types typeKeys).has (.array types) = true) :
    ∀ type ∈ concrete types, ∃ name ∈ typeKeys, type = .string name := by
  intro type hm
  obtain ⟨ht, hn⟩ := List.mem_filter.mp hm
  exact exists_concrete (List.all_eq_true.mp h type ht) (by simpa using hn)

theorem allows_soleType {type : Json} (h : (Form.types typeKeys).has type = true)
    (hs : soleType type = some keyword) : openApi.Allows (Uses openApi) ("type", keyword) := by
  refine allows_of_plain rfl ?_ rfl
  cases type with
  | array types =>
    have hmem : keyword ∈ concrete types :=
      concrete_of_soleType hs ▸ List.mem_singleton_self keyword
    obtain ⟨name, hm, rfl⟩ := has_concrete h keyword hmem
    exact List.contains_iff_mem.mpr hm
  | string name =>
    cases hs
    exact h
  | _ => cases h

theorem uses_typeBranch {name : String} (h : name ∈ typeKeys) :
    Uses openApi (typeBranch (.string name)) := by
  refine .of_allows (List.nodup_singleton "type") fun entry hm => ?_
  rw [List.mem_singleton.mp hm]
  exact allows_of_plain rfl (List.contains_iff_mem.mpr h) rfl

theorem allows_alternatives {type : Json} (h : (Form.types typeKeys).has type = true)
    (hs : alternatives type = some keyword) : openApi.Allows (Uses openApi) ("anyOf", keyword) := by
  cases type with
  | array types =>
    rw [eq_of_alternatives hs]
    refine ⟨.schemas, rfl, rfl, fun schema hm => ?_⟩
    obtain ⟨type, ht, rfl⟩ := List.mem_map.mp hm
    obtain ⟨name, hname, rfl⟩ := has_concrete h type ht
    exact uses_typeBranch hname
  | _ => cases hs

theorem forms_of_side : ∀ side ∈ sides,
    folded.keywords.get? side.1 = some .number ∧ folded.keywords.get? side.2 = some .number ∧
      openApi.keywords.get? side.1 = some .flag ∧ openApi.keywords.get? side.2 = some .number := by
  decide

theorem has_flagged {limit : Json} (h : Form.number.has limit = true) :
    Form.flag.has (flagged limit) = true := by
  cases limit with
  | number n => rfl
  | _ => cases h

/-- Each member of a lowered schema is one of the standard's. -/
theorem allows_of_origin (hu : Uses folded (.object members))
    (hl : ∀ entry ∈ members, Lowerable entry) (h : Origin members key keyword) :
    openApi.Allows (Uses openApi) (key, keyword) := by
  cases h with
  | kept hk hg => exact allows_lowerChild (hl _ (Entries.mem_of_get? hg)) hk
  | otherId hg _ => rw [hu.get?_eq_none rfl] at hg; cases hg
  | constant _ => exact allows_of_plain rfl rfl rfl
  | soleType ht hs => exact allows_soleType (hu.form rfl ht) hs
  | alternatives ht hs => exact allows_alternatives (hu.form rfl ht) hs
  | nullable _ _ => exact allows_of_plain rfl rfl rfl
  | limit hside _ hnumber =>
    obtain ⟨_, _, _, hbound⟩ := forms_of_side _ hside
    exact allows_of_plain hbound hnumber rfl
  | bound hside _ hg =>
    obtain ⟨_, hfolded, _, hbound⟩ := forms_of_side _ hside
    exact allows_of_plain hbound (hu.form hfolded hg) rfl
  | flag hside hg =>
    obtain ⟨hfolded, _, hflag, _⟩ := forms_of_side _ hside
    exact allows_of_plain hflag (has_flagged (hu.form hfolded hg)) rfl
  | firstExample _ _ => exact allows_of_plain rfl rfl rfl

/-- A folded schema becomes one in the vocabulary of OpenAPI 3.0. -/
theorem uses_downgrade {schema : Json} (h : Uses folded schema) :
    Uses openApi (downgrade schema) := by
  refine h.induction (P := fun schema => Uses openApi (downgrade schema))
    (fun _ hflags => by cases hflags) fun members hu hl => ?_
  have hn := nodup_downgradeNode (nodup_downgradeChildren hu.nodup)
  exact .of_allows hn fun entry hm => allows_of_origin hu hl (.of_mem hu.nodup hm)

end Node

end RouteDoc.Schema
