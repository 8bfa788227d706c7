import RouteDoc.Proofs.Schema.Grammar
import RouteDoc.Proofs.Schema.OpenApi

namespace RouteDoc.Schema

open SchemaObject
open Vocabulary (standard openApi)

namespace Form

/-- What a Schema Object has where the vocabulary has this form. -/
def content : Form → Content
  | text => .text
  | flag => .flag
  | number => .number
  | positive => .positive
  | count => .count
  | choices => .choices
  | distinctNames => .distinctNames
  | word _ => .typeName
  | schema => .schema
  | schemaOrFlag => .schemaOrFlag
  | schemas => .schemas
  | named _ => .named
  | _ => .anything

/-- The texts that the form allows, if it allows only some. -/
def words : Form → List String
  | word allowed => allowed
  | _ => []

variable {form : Form} {value : Json}

theorem schemasIn_content (form : Form) (value : Json) :
    form.content.schemasIn value = form.schemasIn value := by
  cases form <;> cases value <;> rfl

theorem suits_count (h : count.has value = true) : Content.count.Suits value := by
  cases value with
  | number n =>
    cases n with
    | integer n =>
      obtain ⟨m, rfl⟩ := Int.eq_ofNat_of_zero_le (of_decide_eq_true h)
      exact ⟨m, rfl⟩
    | binary x => cases h
  | _ => cases h

theorem suits_positive (h : positive.has value = true) : Content.positive.Suits value := by
  have horder : numberOrder value 0 = some .gt := of_decide_eq_true h
  cases value with
  | number n => exact ⟨n, rfl, Option.some.inj horder⟩
  | _ => cases horder

theorem suits_distinctNames (h : distinctNames.has value = true) :
    Content.distinctNames.Suits value := by
  cases value with
  | array items =>
    simp only [has, Bool.and_eq_true, Bool.not_eq_true'] at h
    obtain ⟨⟨hempty, hstrings⟩, hdistinct⟩ := h
    have htexts : ∀ item ∈ items, IsText item := fun item hm =>
      isText_of_isString (List.all_eq_true.mp hstrings item hm)
    obtain ⟨names, rfl⟩ := texts_iff.mp htexts
    refine ⟨names, rfl, ?_, hasRepeats_eq_false.mp hdistinct⟩
    rintro rfl
    cases hempty
  | _ => cases h

/-- A value of the form suits the content. -/
theorem suits_content (hw : form.words ⊆ typeKeys) (h : form.has value = true) :
    form.content.Suits value := by
  cases form with
  | data | list | names | types | schema | schemaOrFlag => trivial
  | text => exact isText_of_isString h
  | flag =>
    cases value with
    | bool verdict => exact ⟨verdict, rfl⟩
    | _ => cases h
  | number =>
    cases value with
    | number n => exact ⟨n, rfl⟩
    | _ => cases h
  | positive => exact suits_positive h
  | count => exact suits_count h
  | choices =>
    cases value with
    | array items =>
      refine ⟨items, rfl, ?_⟩
      rintro rfl
      cases h
    | _ => cases h
  | distinctNames => exact suits_distinctNames h
  | word allowed =>
    cases value with
    | string type => exact ⟨type, hw (List.contains_iff_mem.mp h), rfl⟩
    | _ => cases h
  | schemas => exact exists_array h
  | named reserved => exact exists_object h

end Form

theorem contents_of_mem :
    ∀ entry ∈ standard, contents.get? entry.1 = some entry.2.content := by
  have hmap : standard.map (fun entry => contents.get? entry.1) =
      standard.map (fun entry => some entry.2.content) := rfl
  exact List.map_inj_left.mp hmap

theorem words_of_mem : ∀ entry ∈ standard, entry.2.words ⊆ typeKeys := by decide

theorem isExtension_patternNote : isExtension patternNote = true := by decide +kernel

/-- What the vocabulary allows is allowed in a Schema Object. -/
theorem allowed_of_allows {P : Json → Prop} {entry : String × Json} (h : openApi.Allows P entry) :
    Allowed P entry := by
  obtain ⟨form, hform, hhas, hschemas⟩ := h
  rcases List.mem_append.mp (Entries.mem_of_get? hform) with hstandard | hnote
  · have hcontent := contents_of_mem _ hstandard
    have hsuits := Form.suits_content (words_of_mem _ hstandard) hhas
    rw [← form.schemasIn_content] at hschemas
    exact Or.inr ⟨form.content, hcontent, hsuits, hschemas⟩
  · have hkey : entry.1 = patternNote := congrArg Prod.fst (List.mem_singleton.mp hnote)
    exact Or.inl (hkey ▸ ⟨isExtension_patternNote, rfl⟩)

/-- A schema in the vocabulary is a Schema Object. -/
theorem conforms_of_uses {value : Json} (h : Uses openApi value) : Conforms value := by
  refine h.induction (fun _ hflags => by cases hflags) fun members _ hallows => ?_
  exact conforms_of_allowed fun entry hm =>
    (allowed_of_allows (hallows entry hm)).mono fun inner hc => Or.inr hc

theorem check_of_uses {value : Json} (h : Uses openApi value) : check value = [] :=
  check_eq_nil_iff.mpr (conforms_of_uses h)

end RouteDoc.Schema
