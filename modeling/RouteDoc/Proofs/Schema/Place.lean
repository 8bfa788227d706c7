import RouteDoc.Proofs.Json.Path
import RouteDoc.Schema.Rule

namespace RouteDoc.Schema

/-- The path of the finding leads somewhere in the value. -/
def Placed (value : Json) (finding : Finding) : Prop :=
  ∃ inner, value.LeadsTo finding.path inner

section Steps

variable {value : Json} {finding : Finding}

theorem placed_of_path (h : finding.path = []) : Placed value finding := by
  refine ⟨value, ?_⟩
  rw [h]
  exact .here value

theorem Placed.ofMember {whole : Json} {name : String} (h : Placed value finding)
    (hm : (name, value) ∈ membersOf whole) : Placed whole (finding.below name) := by
  obtain ⟨inner, hp⟩ := h
  cases whole with
  | object members => exact ⟨inner, .member hm hp⟩
  | _ => cases hm

theorem Placed.ofItem {whole : Json} {index : Nat} (h : Placed value finding)
    (hm : (value, index) ∈ itemsOf whole) : Placed whole (finding.below (toString index)) := by
  obtain ⟨inner, hp⟩ := h
  cases whole with
  | array items => exact ⟨inner, .item (List.mem_zipIdx_iff_getElem?.mp hm) hp⟩
  | _ => cases hm

/-- What is wrong with the name of a member is found at the object. -/
theorem Placed.ofName {name : String} (h : Placed (.string name) finding) :
    Placed value finding := by
  obtain ⟨inner, hp⟩ := h
  generalize hpath : finding.path = path at hp
  cases hp with
  | here => exact placed_of_path hpath

end Steps

section Findings

variable {dialect : Dialect} {look : String → Json → List Finding}

mutual

theorem placed_findings (hl : ∀ name value, ∀ finding ∈ look name value, Placed value finding) :
    (rule : Rule) → (value : Json) →
      ∀ finding ∈ rule.findings dialect look value, Placed value finding
  | .types _, value, finding, hf | .values _, value, finding, hf | .atLeast _, value, finding, hf
  | .moreThan _, value, finding, hf | .minItems _, value, finding, hf
  | .maxItems _, value, finding, hf | .distinct, value, finding, hf | .form _, value, finding, hf
  | .required _, value, finding, hf | .dependent _ _, value, finding, hf
  | .choice _ _, value, finding, hf => by
    have hpath : finding.path = [] := by
      simp only [Rule.findings] at hf
      grind [Finding.here]
    exact placed_of_path hpath
  | .items rules, value, finding, hf => by
    obtain ⟨⟨item, index⟩, hm, hf⟩ := List.mem_flatMap.mp hf
    obtain ⟨inner, hinner, rfl⟩ := List.mem_map.mp hf
    exact (placed_allFindings hl rules item inner hinner).ofItem hm
  | .members fields, value, finding, hf => placed_memberFindings hl fields value finding hf
  | .everyMember rules, value, finding, hf => by
    obtain ⟨⟨name, member⟩, hm, hf⟩ := List.mem_flatMap.mp hf
    obtain ⟨inner, hinner, rfl⟩ := List.mem_map.mp hf
    exact (placed_allFindings hl rules member inner hinner).ofMember hm
  | .everyName rules, value, finding, hf => by
    obtain ⟨⟨name, member⟩, _, hf⟩ := List.mem_flatMap.mp hf
    exact (placed_allFindings hl rules (.string name) finding hf).ofName
  | .only fields, value, finding, hf => by
    have hcases : finding.path = [] ∨ finding ∈ (membersOf value).flatMap fun (name, member) =>
        (fieldFindings dialect look name fields member).map (·.below name) := by
      simp only [Rule.findings] at hf
      grind [Finding.here]
    rcases hcases with hpath | hf
    · exact placed_of_path hpath
    · obtain ⟨⟨name, member⟩, hm, hf⟩ := List.mem_flatMap.mp hf
      obtain ⟨inner, hinner, rfl⟩ := List.mem_map.mp hf
      exact (placed_fieldFindings hl name fields member inner hinner).ofMember hm
  | .see definition, value, finding, hf => hl definition value finding hf
termination_by structural rule => rule

theorem placed_allFindings
    (hl : ∀ name value, ∀ finding ∈ look name value, Placed value finding) :
    (rules : List Rule) → (value : Json) →
      ∀ finding ∈ allFindings dialect look rules value, Placed value finding
  | [], _, _, hf => nomatch hf
  | rule :: rest, value, finding, hf => by
    rw [allFindings] at hf
    rcases List.mem_append.mp hf with hf | hf
    · exact placed_findings hl rule value finding hf
    · exact placed_allFindings hl rest value finding hf

theorem placed_memberFindings
    (hl : ∀ name value, ∀ finding ∈ look name value, Placed value finding) :
    (fields : List (String × List Rule)) → (value : Json) →
      ∀ finding ∈ memberFindings dialect look fields value, Placed value finding
  | [], _, _, hf => nomatch hf
  | (name, rules) :: rest, value, finding, hf => by
    rw [memberFindings] at hf
    rcases List.mem_append.mp hf with hf | hf
    · cases hg : value.get? name with
      | none => simp [hg] at hf
      | some member =>
        rw [hg] at hf
        obtain ⟨inner, hinner, rfl⟩ := List.mem_map.mp hf
        have hplaced := placed_allFindings hl rules member inner hinner
        cases value with
        | object members => exact hplaced.ofMember (Entries.mem_of_get? hg)
        | _ => cases hg
    · exact placed_memberFindings hl rest value finding hf

theorem placed_fieldFindings
    (hl : ∀ name value, ∀ finding ∈ look name value, Placed value finding) (wanted : String) :
    (fields : List (String × List Rule)) → (member : Json) →
      ∀ finding ∈ fieldFindings dialect look wanted fields member, Placed member finding
  | [], _, _, hf => nomatch hf
  | (name, rules) :: rest, member, finding, hf => by
    rw [fieldFindings] at hf
    split at hf
    · exact placed_allFindings hl rules member finding hf
    · exact placed_fieldFindings hl wanted rest member finding hf

end

/-- The same holds of the findings of a whole definition. -/
theorem Definitions.placed (definitions : Definitions) (dialect : Dialect) (depth : Nat) :
    ∀ name value, ∀ finding ∈ definitions.findings dialect depth name value,
      Placed value finding := by
  induction depth with
  | zero =>
    intro name value finding hf
    cases hf
  | succ depth ih =>
    intro name value finding hf
    exact placed_allFindings ih _ value finding hf

end Findings

end RouteDoc.Schema
