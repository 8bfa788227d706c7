import RouteDoc.Proofs.Entries
import RouteDoc.Schema.Rule

namespace RouteDoc.Schema

section Rules

variable {dialect : Dialect} {look : String → Json → List Finding} {value : Json}
  {members : Entries Json} {rules : List Rule} {fields : List (String × List Rule)}

theorem types_object_passed : (Rule.types [.object]).findings dialect look value = [] ↔
    ∃ members, value = .object members := by
  cases value <;> simp [Rule.findings, Dialect.hasType]

theorem required_passed_iff {name : String} :
    (Rule.required [name]).findings dialect look (.object members) = [] ↔
      (Entries.get? name members).isSome := by
  cases hg : Entries.get? name members <;> simp [Rule.findings, Entries.has, hg]

theorem members_passed_iff : (Rule.members fields).findings dialect look value = [] ↔
    ∀ field ∈ fields, ∀ member ∈ value.get? field.1,
      allFindings dialect look field.2 member = [] := by
  rw [Rule.findings]
  induction fields with
  | nil => simp [memberFindings]
  | cons field rest ih =>
    obtain ⟨name, rules⟩ := field
    rw [memberFindings, List.append_eq_nil_iff, ih, List.forall_mem_cons]
    cases hg : value.get? name <;> simp

theorem everyMember_passed_iff :
    (Rule.everyMember rules).findings dialect look (.object members) = [] ↔
      ∀ entry ∈ members, allFindings dialect look rules entry.2 = [] := by
  simp [Rule.findings, membersOf, List.flatMap_eq_nil_iff]

theorem items_passed_iff {items : List Json} :
    (Rule.items rules).findings dialect look (.array items) = [] ↔
      ∀ item ∈ items, allFindings dialect look rules item = [] := by
  rw [Rule.findings, List.flatMap_eq_nil_iff]
  constructor
  · intro h item hm
    obtain ⟨index, hi⟩ := List.mem_iff_getElem?.mp hm
    exact List.map_eq_nil_iff.mp (h (item, index) (List.mem_zipIdx_iff_getElem?.mpr hi))
  · intro h indexed hm
    exact List.map_eq_nil_iff.mpr (h indexed.1 (List.fst_mem_of_mem_zipIdx hm))

theorem fieldFindings_eq (wanted : String) (fields : List (String × List Rule)) (member : Json) :
    fieldFindings dialect look wanted fields member =
      ((Entries.get? wanted fields).map fun rules =>
        allFindings dialect look rules member).getD [] := by
  induction fields with
  | nil => rfl
  | cons field rest ih =>
    obtain ⟨name, rules⟩ := field
    by_cases h : name = wanted <;> simp [fieldFindings, Entries.get?, h, ih]

theorem any_field_eq (name : String) (fields : List (String × List Rule)) :
    (fields.any fun field => field.1 = name) = (Entries.get? name fields).isSome := by
  induction fields with
  | nil => rfl
  | cons field rest ih =>
    by_cases h : field.1 = name <;> simp [Entries.get?, h, ih]

/-- An object passes if its members pass the rules of their names and all others are extensions. -/
theorem only_passed_iff : (Rule.only fields).findings dialect look (.object members) = [] ↔
    ∀ entry ∈ members, (isExtension entry.1 = true ∨ (Entries.get? entry.1 fields).isSome) ∧
      ∀ rules ∈ Entries.get? entry.1 fields, allFindings dialect look rules entry.2 = [] := by
  have hfound : (members.flatMap fun entry =>
      (fieldFindings dialect look entry.1 fields entry.2).map (·.below entry.1)) = [] ↔
        ∀ entry ∈ members, ∀ rules ∈ Entries.get? entry.1 fields,
          allFindings dialect look rules entry.2 = [] := by
    rw [List.flatMap_eq_nil_iff]
    refine forall₂_congr fun entry _ => ?_
    rw [List.map_eq_nil_iff, fieldFindings_eq]
    cases Entries.get? entry.1 fields <;> simp
  have hstrange : (Entries.keys members).filter (fun name =>
      !(fields.any fun field => field.1 = name) && !isExtension name) = [] ↔
        ∀ entry ∈ members, isExtension entry.1 = true ∨ (Entries.get? entry.1 fields).isSome := by
    rw [List.filter_eq_nil_iff, Entries.keys, List.forall_mem_map]
    refine forall₂_congr fun entry _ => ?_
    rw [any_field_eq]
    cases isExtension entry.1 <;> cases Entries.get? entry.1 fields <;> simp
  rw [forall₂_and, ← hfound, ← hstrange, Rule.findings]
  dsimp only
  split
  · rename_i hnone
    exact (and_iff_right hnone).symm
  · rename_i hsome
    exact iff_of_false (List.append_ne_nil_of_right_ne_nil _ (List.cons_ne_nil _ _))
      (fun h => hsome h.1)

/-- Texts are distinct if none of them repeats as a value. -/
theorem hasRepeats_eq_false {names : List String} :
    hasRepeats (names.map Json.string) = false ↔ names.Nodup := by
  induction names with
  | nil => simp [hasRepeats]
  | cons name rest ih =>
    have hany : (rest.map Json.string).any (Json.equal (.string name)) = false ↔ name ∉ rest := by
      simpa [List.any_eq_false, Json.equal, Json.sameBy] using List.forall_mem_ne
    rw [List.map_cons, hasRepeats, Bool.or_eq_false_iff, hany, ih, List.nodup_cons]

end Rules

theorem nesting_pos (value : Json) : 0 < nesting value := by
  cases value <;> simp [nesting]

theorem nesting_lt_items {items : List Json} {item : Json} (h : item ∈ items) :
    nesting item < nesting (.array items) := by
  rw [nesting]
  induction items with
  | nil => simp at h
  | cons first rest ih =>
    rw [nestingOfItems]
    rcases List.mem_cons.mp h with rfl | h
    · omega
    · have := ih h
      omega

theorem nesting_lt_members {members : Entries Json} {key : String} {value : Json}
    (h : (key, value) ∈ members) : nesting value < nesting (.object members) := by
  rw [nesting]
  induction members with
  | nil => simp at h
  | cons first rest ih =>
    rw [nestingOfMembers]
    rcases List.mem_cons.mp h with rfl | h
    · exact Nat.lt_succ_of_le (Nat.le_max_left _ _)
    · have := ih h
      omega

/-- What holds of a value whenever it holds of all that are nested less deeply holds always. -/
theorem nesting_induction {P : Json → Prop}
    (step : ∀ value, (∀ inner, nesting inner < nesting value → P inner) → P value)
    (value : Json) : P value :=
  (InvImage.wf nesting Nat.lt_wfRel.wf).induction value step

/-- Where the depth covers a value, it covers what is nested in the value at one less. -/
theorem depth_of_nesting {value : Json} {depth : Nat} (hd : nesting value ≤ depth) :
    ∃ less, depth = less + 1 ∧ ∀ inner, nesting inner < nesting value → nesting inner ≤ less := by
  have hpos := nesting_pos value
  exact ⟨depth - 1, by omega, fun inner hi => by omega⟩

end RouteDoc.Schema
