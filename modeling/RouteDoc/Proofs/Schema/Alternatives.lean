import RouteDoc.Proofs.Schema.Grammar

namespace RouteDoc.Schema

mutual

/-- The lists of alternatives in a rule of which a value has to be exactly one. -/
def Rule.alternatives : Rule → List (List (List Rule))
  | .items rules => alternativesAmong rules
  | .members fields => alternativesOfFields fields
  | .everyMember rules => alternativesAmong rules
  | .everyName rules => alternativesAmong rules
  | .only fields => alternativesOfFields fields
  | .choice .oneOf branches => branches :: alternativesOfBranches branches
  | .choice .anyOf branches => alternativesOfBranches branches
  | _ => []
termination_by structural rule => rule

def alternativesAmong : List Rule → List (List (List Rule))
  | [] => []
  | rule :: rest => rule.alternatives ++ alternativesAmong rest

def alternativesOfFields : List (String × List Rule) → List (List (List Rule))
  | [] => []
  | (_, rules) :: rest => alternativesAmong rules ++ alternativesOfFields rest

def alternativesOfBranches : List (List Rule) → List (List (List Rule))
  | [] => []
  | rules :: rest => alternativesAmong rules ++ alternativesOfBranches rest

end

theorem branchesPassed_append {dialect : Dialect} {look : String → Json → List Finding}
    (first second : List (List Rule)) (value : Json) :
    branchesPassed dialect look (first ++ second) value =
      branchesPassed dialect look first value + branchesPassed dialect look second value := by
  induction first with
  | nil => simp [branchesPassed]
  | cons rules rest ih => rw [List.cons_append, branchesPassed, branchesPassed, ih, Nat.add_assoc]

namespace SchemaObject

variable {value : Json} {branches : List (List Rule)}

/-- All lists of alternatives in the definitions. -/
def alternatives : List (List (List Rule)) :=
  definitions.flatMap fun (_, rules) => alternativesAmong rules

def schemaAlternatives : List (List Rule) := [[.see "Schema"], [.see "Reference"]]

theorem eq_of_mem_alternatives (h : branches ∈ alternatives) :
    branches = schemaAlternatives ∨ branches = schemaAlternatives ++ [boolean] := by
  have hall : alternatives =
      List.replicate 6 schemaAlternatives ++ [schemaAlternatives ++ [boolean]] := rfl
  rw [hall] at h
  exact (List.mem_append.mp h).imp List.eq_of_mem_replicate List.mem_singleton.mp

/-- A boolean is neither a schema nor a reference, and a schema is no reference. -/
theorem branchesPassed_le_one (h : branches ∈ alternatives) (depth : Nat) (value : Json) :
    branchesPassed dialect (look (depth + 1)) branches value ≤ 1 := by
  have hpair : branchesPassed dialect (look (depth + 1)) schemaAlternatives value ≤ 1 := by
    simp only [schemaAlternatives, branchesPassed, allFindings, Rule.findings, List.append_nil]
    by_cases hs : look (depth + 1) "Schema" value = []
    · have hr : look (depth + 1) "Reference" value ≠ [] :=
        fun hr => not_isReference hs (reference_passed.mp hr)
      simp [hs, hr]
    · simp only [List.isEmpty_iff, hs, if_false]
      split <;> omega
  rcases eq_of_mem_alternatives h with rfl | rfl
  · exact hpair
  · rw [branchesPassed_append]
    by_cases hflag : IsFlag value
    · obtain ⟨verdict, rfl⟩ := hflag
      have hnone : branchesPassed dialect (look (depth + 1)) schemaAlternatives
          (.bool verdict) = 0 := rfl
      rw [hnone, Nat.zero_add]
      exact Nat.le_refl 1
    · have hnone : branchesPassed dialect (look (depth + 1)) [boolean] value = 0 := by
        simp [branchesPassed, flag_passed, hflag]
      rw [hnone]
      exact hpair

theorem not_allowed_ref {P : Json → Prop} {target : Json} : ¬Allowed P ("$ref", target) := by
  rintro (⟨hextension, _⟩ | ⟨content, hc, _⟩)
  · have hnone : isExtension "$ref" = false := by decide +kernel
    exact Bool.false_ne_true (hnone.symm.trans hextension)
  · cases hc

theorem conforms_iff_allowed : Conforms value ↔ ∃ members, value = .object members ∧
    ∀ entry ∈ members, Allowed (fun inner => IsReference inner ∨ Conforms inner) entry := by
  constructor
  · rintro ⟨hfields, hwithin⟩
    refine ⟨_, rfl, fun entry hm => ?_⟩
    obtain ⟨hknown, hshape⟩ := hfields entry hm
    have hinner := hwithin entry hm
    rw [Entries.get?_map] at hknown hshape
    unfold schemasWithin at hinner
    cases hc : contents.get? entry.1 with
    | none => exact Or.inl ⟨by simpa [hc] using hknown, hc⟩
    | some content =>
      rw [hc] at hinner
      refine Or.inr ⟨content, hc, hshape _ (by simp [hc]), fun inner hi => ?_⟩
      exact Classical.or_iff_not_imp_left.mpr (hinner inner hi)
  · rintro ⟨members, rfl, h⟩
    exact conforms_of_allowed h

/-- A Schema Object does not have the key of references. -/
theorem Conforms.get?_ref (h : Conforms value) : value.get? "$ref" = none := by
  obtain ⟨members, rfl, hallowed⟩ := conforms_iff_allowed.mp h
  refine Option.eq_none_iff_forall_ne_some.mpr fun target hg => ?_
  exact not_allowed_ref (hallowed _ (Entries.mem_of_get? hg))

/-- The check finds nothing exactly if the value is in the grammar: an object of keywords with
suitable values and of extensions, where each schema in it is an object with a reference or an
object without that is in the grammar itself. And of the alternatives in the definition, no value
is more than one. -/
theorem check_accepts_grammar (value : Json) :
    (check value = [] ↔ Conforms value) ∧
    (Conforms value ↔ ∃ members, value = .object members ∧ ∀ entry ∈ members,
      Allowed (fun inner => IsReference inner ∨ inner.get? "$ref" = none ∧ Conforms inner) entry) ∧
    ∀ branches ∈ alternatives, ∀ depth,
      branchesPassed dialect (look (depth + 1)) branches value ≤ 1 := by
  refine ⟨check_eq_nil_iff, ?_, fun branches h depth => branchesPassed_le_one h depth value⟩
  have hinner : ∀ inner, IsReference inner ∨ Conforms inner ↔
      IsReference inner ∨ inner.get? "$ref" = none ∧ Conforms inner :=
    fun inner => or_congr_right (and_iff_right_of_imp Conforms.get?_ref).symm
  simp only [← hinner]
  exact conforms_iff_allowed

end SchemaObject

end RouteDoc.Schema
