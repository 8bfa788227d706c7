import RouteDoc.Proofs.Schema.Grammar
import RouteDoc.Proofs.Schema.Vocabulary
import RouteDoc.Schema.PatternFold

namespace RouteDoc.Schema

open SchemaObject (typeKeys)

namespace Vocabulary

/-- Keywords with the same form in draft-07 and in the dialect of OpenAPI 3.0. -/
def shared : Entries Form := [
  ("title", .text),
  ("description", .text),
  ("format", .text),
  ("pattern", .text),
  ("enum", .choices),
  ("minimum", .number),
  ("maximum", .number),
  ("multipleOf", .positive),
  ("maxLength", .count),
  ("minLength", .count),
  ("maxItems", .count),
  ("minItems", .count),
  ("maxProperties", .count),
  ("minProperties", .count),
  ("uniqueItems", .flag),
  ("default", .data),
  ("properties", .named [patternKey]),
  ("required", .distinctNames),
  ("items", .schema),
  ("additionalProperties", .schemaOrFlag),
  ("oneOf", .schemas),
  ("anyOf", .schemas),
  ("allOf", .schemas),
  ("not", .schema)]

/-- Keywords that folding leaves in place. -/
def lasting : Entries Form := shared ++ [
  ("$schema", .data),
  ("$id", .data),
  ("$comment", .data),
  ("type", .types typeKeys),
  ("const", .data),
  ("exclusiveMinimum", .number),
  ("exclusiveMaximum", .number),
  ("examples", .list)]

/-- What converts to the dialect of OpenAPI 3.0. -/
def portable : Vocabulary := ⟨lasting ++ [(patternKey, .named [])], false⟩

/-- Portable keywords after patterns have been folded. -/
def folded : Vocabulary := ⟨lasting ++ [(patternNote, .text)], false⟩

end Vocabulary

section Folding

variable {form : Form} {key : String} {value : Json} {members rest : Entries Json}

theorem foldItems_eq (items : List Json) : foldItems items = items.map foldPatterns := by
  induction items with
  | nil => rfl
  | cons item rest ih => rw [foldItems, ih, List.map_cons]

theorem foldPatterns_of_isString (h : value.isString = true) : foldPatterns value = value := by
  cases value with
  | string s => rfl
  | _ => cases h

theorem map_foldPatterns_of_strings {items : List Json} (h : items.all Json.isString = true) :
    items.map foldPatterns = items :=
  (List.map_congr_left fun item hm =>
    foldPatterns_of_isString (List.all_eq_true.mp h item hm)).trans (List.map_id items)

theorem offer_of_get?_eq_none {folded : Entries Json} (h : folded.get? additionalKey = none) :
    offer folded value = folded.insert additionalKey value := by
  rw [offer, settled, h]
  rfl

theorem foldMembers_additional {folded : Entries Json} :
    foldMembers folded ((additionalKey, value) :: rest) =
      foldMembers (offer folded (foldPatterns value)) rest := by
  cases value <;> rfl

theorem foldMembers_plain {folded : Entries Json} (ha : key ≠ additionalKey)
    (hp : key ≠ patternKey) : foldMembers folded ((key, value) :: rest) =
      foldMembers (folded.insert key (foldPatterns value)) rest := by
  rcases value with _ | _ | _ | _ | _ | (_ | _) <;> simp [foldMembers, ha, hp]

theorem foldMembers_pattern {folded : Entries Json} {pattern : String} {schema : Json}
    {others : List (String × Json)} :
    foldMembers folded ((patternKey, .object ((pattern, schema) :: others)) :: rest) =
      foldMembers ((offer folded (foldPatterns schema)).insert patternNote (.string pattern))
        rest := rfl

theorem foldMembers_noPattern {folded : Entries Json}
    (h : ∀ first others, value ≠ .object (first :: others)) :
    foldMembers folded ((patternKey, value) :: rest) = foldMembers folded rest := by
  rcases value with _ | _ | _ | _ | _ | (_ | ⟨first, others⟩)
  case object.cons => exact absurd rfl (h first others)
  all_goals rfl

/-- What folding writes among the members of an object, and the member that it comes from. -/
inductive Folded (members : Entries Json) : String → Json → Prop
  | kept {key : String} {value : Json} : (key, value) ∈ members → key ≠ patternKey →
      Folded members key (foldPatterns value)
  | schema {pattern : String} {schema : Json} {others : Entries Json} :
      (patternKey, .object ((pattern, schema) :: others)) ∈ members →
      Folded members additionalKey (foldPatterns schema)
  | note {pattern : String} {schema : Json} {others : Entries Json} :
      (patternKey, .object ((pattern, schema) :: others)) ∈ members →
      Folded members patternNote (.string pattern)

/-- Folding is a row of insertions: what each of them keeps holds of the folded members. -/
theorem foldMembers_induction {P : Entries Json → Prop} {folded : Entries Json} (hf : P folded)
    (hi : ∀ {entries key value}, Folded rest key value → P entries → P (entries.insert key value)) :
    P (foldMembers folded rest) := by
  have hoffer {entries value} (hv : Folded rest additionalKey value) (he : P entries) :
      P (offer entries value) := by
    unfold offer
    split
    · exact he
    · exact hi hv he
  suffices hsuffix : ∀ members folded, (∀ entry ∈ members, entry ∈ rest) → P folded →
      P (foldMembers folded members) from hsuffix rest folded (fun _ hm => hm) hf
  intro members
  induction members with
  | nil =>
    intro folded _ hf
    exact hf
  | cons entry members ih =>
    intro folded hs hf
    obtain ⟨key, value⟩ := entry
    have hentry : (key, value) ∈ rest := hs _ List.mem_cons_self
    have hnext {folded : Entries Json} (hf : P folded) : P (foldMembers folded members) :=
      ih folded (fun entry hm => hs entry (List.mem_cons_of_mem _ hm)) hf
    by_cases hp : key = patternKey
    · subst hp
      by_cases hpatterns : ∃ first others, value = .object (first :: others)
      · obtain ⟨⟨pattern, schema⟩, others, rfl⟩ := hpatterns
        rw [foldMembers_pattern]
        exact hnext (hi (.note hentry) (hoffer (.schema hentry) hf))
      · simp only [not_exists] at hpatterns
        rw [foldMembers_noPattern hpatterns]
        exact hnext hf
    · by_cases ha : key = additionalKey
      · subst ha
        rw [foldMembers_additional]
        exact hnext (hoffer (.kept hentry hp) hf)
      · rw [foldMembers_plain ha hp]
        exact hnext (hi (.kept hentry hp) hf)

/-- Schemas by name are folded one by one, unless a name is that of the keyword for patterns. -/
theorem foldMembers_eq {folded : Entries Json} (hn : (Entries.keys (folded ++ rest)).Nodup)
    (hp : patternKey ∉ Entries.keys rest) :
    foldMembers folded rest = folded ++ rest.map fun (name, schema) => (name, foldPatterns schema)
    := by
  induction rest generalizing folded with
  | nil => rw [foldMembers, List.map_nil, List.append_nil]
  | cons entry rest ih =>
    obtain ⟨name, schema⟩ := entry
    have hkeys : Entries.keys (folded ++ (name, schema) :: rest) =
        Entries.keys (folded ++ [(name, foldPatterns schema)] ++ rest) := by
      simp [Entries.keys]
    have hnew : name ∉ Entries.keys folded := Entries.not_mem_of_nodup_append hn
    have hinsert : folded.insert name (foldPatterns schema) =
        folded ++ [(name, foldPatterns schema)] := Entries.insert_of_not_mem hnew
    have hrest := ih (hkeys ▸ hn) fun hm => hp (List.mem_cons_of_mem _ hm)
    have hname : name ≠ patternKey := fun he => hp (he ▸ List.mem_cons_self)
    have hstep : foldMembers folded ((name, schema) :: rest) =
        foldMembers (folded ++ [(name, foldPatterns schema)]) rest := by
      by_cases ha : name = additionalKey
      · subst ha
        rw [foldMembers_additional, offer_of_get?_eq_none (Entries.get?_eq_none_iff.mpr hnew),
          hinsert]
      · rw [foldMembers_plain ha hname, hinsert]
    rw [hstep, hrest, List.map_cons, List.append_assoc]
    rfl

/-- Folding may go into the schemas by name of a form. -/
def Form.folds : Form → Bool
  | .named reserved => reserved.contains patternKey
  | _ => true

theorem foldPatterns_named {reserved : List String} (hf : (Form.named reserved).folds = true)
    (h : (Form.named reserved).has (.object members) = true) : foldPatterns (.object members) =
      .object (members.map fun (name, schema) => (name, foldPatterns schema)) := by
  simp only [Form.has, Bool.and_eq_true, decide_eq_true_eq, List.all_eq_true] at h
  have hp : patternKey ∉ Entries.keys members := by
    intro hm
    have hfree := h.2 patternKey hm
    have hreserved : reserved.contains patternKey = true := hf
    rw [hreserved] at hfree
    cases hfree
  have hfolded : foldMembers [] members = [] ++ members.map fun (name, schema) =>
      (name, foldPatterns schema) := foldMembers_eq h.1 hp
  rw [foldPatterns, hfolded, List.nil_append]

theorem asString?_foldPatterns {known : String → Bool} (h : value.asString?.any known = true) :
    (foldPatterns value).asString?.any known = true := by
  cases value with
  | string s => exact h
  | _ => cases h

/-- A value keeps its form. -/
theorem has_fold (hf : form.folds = true) (h : form.has value = true) :
    form.has (foldPatterns value) = true := by
  cases value with
  | array items =>
    rw [foldPatterns, foldItems_eq]
    cases form with
    | choices => simpa [Form.has] using h
    | names =>
      rw [map_foldPatterns_of_strings h]
      exact h
    | distinctNames =>
      have hstrings : items.all Json.isString = true := by
        simp only [Form.has, Bool.and_eq_true] at h
        exact h.1.2
      rw [map_foldPatterns_of_strings hstrings]
      exact h
    | types single =>
      refine List.all_eq_true.mpr fun item hm => ?_
      obtain ⟨type, ht, rfl⟩ := List.mem_map.mp hm
      exact asString?_foldPatterns (List.all_eq_true.mp h type ht)
    | data | list | schema | schemaOrFlag | schemas => rfl
    | _ => cases h
  | object members =>
    cases form with
    | named reserved =>
      have hkeys : Entries.keys (members.map fun (name, schema) => (name, foldPatterns schema)) =
          Entries.keys members := Entries.keys_map (fun _ => foldPatterns) members
      rw [foldPatterns_named hf h, Form.has, hkeys]
      exact h
    | data | schema | schemaOrFlag => rfl
    | _ => cases h
  | _ => exact h

/-- The schemas in a value are folded, and no others stand in it afterwards. -/
theorem schemasIn_fold (hf : form.folds = true) (h : form.has value = true) :
    form.schemasIn (foldPatterns value) = (form.schemasIn value).map foldPatterns := by
  cases form with
  | schema => rfl
  | schemaOrFlag => cases value <;> rfl
  | schemas =>
    obtain ⟨items, rfl⟩ := Form.exists_array h
    exact foldItems_eq items
  | named reserved =>
    obtain ⟨members, rfl⟩ := Form.exists_object h
    rw [foldPatterns_named hf h, Form.schemasIn, Form.schemasIn, List.map_map, List.map_map]
    rfl
  | _ => rfl

end Folding

section Portable

open Vocabulary (lasting portable folded)

variable {form : Form} {key : String} {value : Json} {members rest : Entries Json}

theorem folds_of_mem : ∀ entry ∈ lasting, entry.2.folds = true := by decide

/-- Apart from patterns, a portable keyword keeps its form. -/
theorem get?_lasting (hk : key ≠ patternKey) (h : portable.keywords.get? key = some form) :
    lasting.get? key = some form := by
  have happend := Entries.get?_append key lasting [(patternKey, Form.named [])]
  have hnone : Entries.get? key [(patternKey, Form.named [])] = none := by
    simp [Entries.get?, Ne.symm hk]
  rw [hnone, Option.or_none] at happend
  exact happend.symm.trans h

theorem get?_folded (h : lasting.get? key = some form) : folded.keywords.get? key = some form :=
  (Entries.get?_append key lasting [(patternNote, Form.text)]).trans (by rw [h, Option.some_or])

/-- A portable member in which every schema is portable after folding. -/
abbrev Foldable : String × Json → Prop :=
  portable.Allows fun schema => Uses folded (foldPatterns schema)

theorem allows_fold (hk : key ≠ patternKey) (h : Foldable (key, value)) :
    folded.Allows (Uses folded) (key, foldPatterns value) := by
  obtain ⟨form, hform, hhas, hschemas⟩ := h
  have hlasting := get?_lasting hk hform
  have hfolds : form.folds = true := folds_of_mem _ (Entries.mem_of_get? hlasting)
  refine ⟨form, get?_folded hlasting, has_fold hfolds hhas, fun schema hs => ?_⟩
  rw [schemasIn_fold hfolds hhas] at hs
  obtain ⟨before, hb, rfl⟩ := List.mem_map.mp hs
  exact hschemas before hb

/-- Whatever folding writes among portable members is a member of the vocabulary. -/
theorem allows_folded (hr : ∀ entry ∈ rest, Foldable entry) (h : Folded rest key value) :
    folded.Allows (Uses folded) (key, value) := by
  cases h with
  | kept hm hk => exact allows_fold hk (hr _ hm)
  | @schema pattern schema others hm =>
    have hfoldable : Foldable _ := hr _ hm
    have hform : portable.keywords.get? patternKey = some (.named []) := rfl
    have hschema : Uses folded (foldPatterns schema) :=
      hfoldable.schemas hform schema List.mem_cons_self
    exact ⟨.schemaOrFlag, rfl, rfl, fun inner hi => Form.eq_of_mem_schemaOrFlag hi ▸ hschema⟩
  | note _ => exact ⟨.text, rfl, rfl, fun _ hm => nomatch hm⟩

/-- Folding a portable schema leaves no patterns at any depth, and what it writes is portable. -/
theorem uses_foldPatterns {schema : Json} (h : Uses portable schema) :
    Uses folded (foldPatterns schema) := by
  refine h.induction (P := fun schema => Uses folded (foldPatterns schema))
    (fun _ hflags => by cases hflags) fun members _ hf => ?_
  have hempty : Uses folded (.object []) := .of_allows List.nodup_nil fun _ hm => nomatch hm
  exact foldMembers_induction (P := fun members => Uses folded (.object members)) hempty
    fun hw hu => hu.insert (allows_folded hf hw)

end Portable

end RouteDoc.Schema
