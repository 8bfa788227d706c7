import RouteDoc.Proofs.Check.Dangling
import RouteDoc.Proofs.Document.Conversion
import RouteDoc.Proofs.Schema.Grammar

namespace RouteDoc

open Schema.SchemaObject (Conforms check_eq_nil_iff)

namespace Check

/-- What the check of references leaves behind. -/
theorem resolves_of_referenceIssues {document : Json} (h : referenceIssues document = [])
    {found : String × String} (hf : found ∈ references document) (hl : found.2.startsWith "#") :
    resolves (document.get? "components") found.2 = true := by
  have hnone := List.filter_eq_nil_iff.mp (List.map_eq_nil_iff.mp h) found hf
  simpa [hl] using hnone

end Check

namespace Conversion

open Check

variable {schema : Json}

/-- The schema stands in its trial document below no other reference. -/
theorem leadsTo_trial (schema : Json) : (trial schema).LeadsTo ["paths", "/get/some/", "get",
    "responses", "200", "content", "application/json", "schema"] schema := by
  refine .member (List.mem_append_right [_, _] List.mem_cons_self) ?_
  refine .member List.mem_cons_self (.member List.mem_cons_self (.member List.mem_cons_self ?_))
  refine .member List.mem_cons_self (.member (List.mem_cons_of_mem _ List.mem_cons_self) ?_)
  exact .member List.mem_cons_self (.member List.mem_cons_self (.here _))

/-- The trial document has no components, so that no local reference can pass. -/
theorem references_of_trial (h : referenceIssues (trial schema) = []) :
    ∀ found ∈ references schema, ¬found.2.startsWith "#" := by
  intro found hf hl
  obtain ⟨met, hmet, heq⟩ := exists_reference_of_leadsTo (leadsTo_trial schema) (by decide) hf
  have hresolves := resolves_of_referenceIssues h hmet (by rwa [heq])
  have hnone : resolves ((trial schema).get? "components") met.2 = false :=
    resolves_eq_false fun _ _ _ => rfl
  rw [hnone] at hresolves
  cases hresolves

theorem conforms_of_trial (h : schemaIssues (trial schema) = []) :
    (schema.get? "$ref").isSome ∨ Conforms schema := by
  obtain ⟨location, hslots⟩ := @schemaSlots_trial schema
  have hslot : slotIssues location schema = [] := by
    simpa [schemaIssues, hslots] using h
  rw [slotIssues] at hslot
  split at hslot
  · rename_i href
    exact Or.inl href
  · exact Or.inr (check_eq_nil_iff.mp (List.map_eq_nil_iff.mp hslot))

end Conversion

/-- A conversion that succeeds compiled the schema and proved the converted one. -/
theorem convert_eq_ok {compiler : Compiler} {checker : Check.Checker} {schema converted : Json}
    (h : convert compiler (some checker) schema = .ok converted) :
    convert compiler none schema = .ok converted ∧ checker (Conversion.trial converted) = [] := by
  unfold convert at h ⊢
  cases hc : compiler schema with
  | error fault =>
    rw [hc] at h
    cases h
  | ok =>
    rw [hc] at h
    cases hp : checker (Conversion.trial (Conversion.toDialect schema)) with
    | nil =>
      simp only [Conversion.prove, passes, hp] at h
      cases h
      exact ⟨rfl, hp⟩
    | cons issue rest =>
      simp only [Conversion.prove, passes, hp] at h
      cases h

/-- A conversion that passes the structural check gives what it gives unchecked, a schema that is
a reference or a Schema Object and that has no local references. -/
theorem convert_sound {compiler : Compiler} {schema converted : Json}
    (h : convert compiler (some Check.structural) schema = .ok converted) :
    convert compiler none schema = .ok converted ∧
      ((converted.get? "$ref").isSome ∨ Conforms converted) ∧
      ∀ found ∈ Check.references converted, ¬found.2.startsWith "#" := by
  obtain ⟨hplain, hpassed⟩ := convert_eq_ok h
  obtain ⟨hrest, _⟩ := List.append_eq_nil_iff.mp hpassed
  obtain ⟨hrest, hreferences⟩ := List.append_eq_nil_iff.mp hrest
  obtain ⟨_, hschema⟩ := List.append_eq_nil_iff.mp hrest
  exact ⟨hplain, Conversion.conforms_of_trial hschema, Conversion.references_of_trial hreferences⟩

theorem convert_sound_ledger : ∃ converted,
    convert .usual (some Check.structural) ledgerSchema = .ok converted ∧
    convert .usual none ledgerSchema = .ok converted ∧
      ((converted.get? "$ref").isSome ∨ Conforms converted) ∧
      ∀ found ∈ Check.references converted, ¬found.2.startsWith "#" := by
  have hok : (convert .usual (some Check.structural) ledgerSchema).isOk = true := by
    decide +kernel
  cases hc : convert .usual (some Check.structural) ledgerSchema with
  | ok converted => exact ⟨converted, rfl, convert_sound hc⟩
  | error fault =>
    rw [hc] at hok
    cases hok

end RouteDoc
