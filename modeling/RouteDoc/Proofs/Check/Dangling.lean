import RouteDoc.Check.Structure
import RouteDoc.Proofs.Check.Occurrence

namespace RouteDoc.Check

open Json (LeadsTo)
open Json.Pointer (ofPath)

/-- What the walk meets in a value, it meets in all that leads there without the key of references,
at another place. -/
theorem exists_reference_of_leadsTo {value inner : Json} {path : List String}
    (h : value.LeadsTo path inner) (hp : "$ref" ∉ path) {found : String × String}
    (hf : found ∈ references inner) : ∃ met ∈ references value, met.2 = found.2 := by
  obtain ⟨rest, _, ho⟩ := mem_references_iff.mp hf
  exact ⟨(ofPath (path ++ rest), found.2),
    mem_references_iff.mpr ⟨_, rfl, ho.of_leadsTo h hp⟩, rfl⟩

/-- The walk meets every reference that does not stand below the key of another, with the pointer
that leads to it. -/
theorem mem_references_of_leadsTo {document : Json} {path : List String} {target : String}
    {members : Entries Json} (hl : document.LeadsTo path (.object members)) (hp : "$ref" ∉ path)
    (h : ("$ref", .string target) ∈ members) :
    (ofPath (path ++ ["$ref"]), target) ∈ references document :=
  mem_references_iff.mpr ⟨_, rfl, path, rfl, hp, hl.trans (.member h (.here _))⟩

theorem resolves_eq_false {components : Option Json} {target : String}
    (h : ∀ place name, componentOf? target = some (place, name) →
      (components.bind (Json.get? place)).bind (Json.get? name) = none) :
    resolves components target = false := by
  unfold resolves
  cases hc : componentOf? target with
  | none => rfl
  | some found =>
    obtain ⟨place, name⟩ := found
    simp [h place name hc]

/-- A finding among the references is a finding of the whole check. -/
theorem mem_structural_of_references {members : Entries Json} {issue : Issue}
    (h : issue ∈ referenceIssues (.object members)) : issue ∈ structural (.object members) :=
  List.mem_append_left _ (List.mem_append_right _ h)

/-- A local reference that names no entry of the components is reported, with the pointer that leads
to it, if it does not stand below the key of a reference. -/
theorem unresolved_reported {document inner : Entries Json} {path : List String} {target : String}
    (hpath : (Json.object document).LeadsTo path (.object inner)) (hclear : "$ref" ∉ path)
    (href : ("$ref", .string target) ∈ inner) (hlocal : target.startsWith "#")
    (hno : ∀ place name, componentOf? target = some (place, name) →
      (((Json.object document).get? "components").bind (Json.get? place)).bind
        (Json.get? name) = none) :
    ⟨ofPath (path ++ ["$ref"]), "unresolved reference '" ++ target ++ "'"⟩ ∈
      structural (.object document) := by
  have hmet := mem_references_of_leadsTo hpath hclear href
  have hdangling := resolves_eq_false hno
  refine mem_structural_of_references (List.mem_map.mpr ⟨(_, target), ?_, rfl⟩)
  refine List.mem_filter.mpr ⟨hmet, ?_⟩
  simp only [hlocal, hdangling, Bool.not_false, Bool.and_self]

/-- A schema that refers to a missing one among its alternatives. -/
def shapeDocument : Entries Json := [("openapi", .string "3.0.0"), ("components", .object [
  ("schemas", .object [("Shape", .object [("oneOf", .array [.object [("type", .string "string")],
    .object [("$ref", .string "#/components/schemas/Circle")]])])])])]

theorem unresolved_reported_shape :
    ⟨"/components/schemas/Shape/oneOf/1/$ref",
      "unresolved reference '#/components/schemas/Circle'"⟩ ∈
        structural (.object shapeDocument) := by
  have hpath : (Json.object shapeDocument).LeadsTo ["components", "schemas", "Shape", "oneOf", "1"]
      (.object [("$ref", .string "#/components/schemas/Circle")]) := by
    refine .member (List.mem_cons_of_mem _ List.mem_cons_self) ?_
    refine .member List.mem_cons_self (.member List.mem_cons_self (.member List.mem_cons_self ?_))
    exact @LeadsTo.item _ 1 _ _ _ rfl (.here _)
  refine unresolved_reported hpath (by decide) List.mem_cons_self (by decide +kernel) ?_
  intro place name hc
  have hread : componentOf? "#/components/schemas/Circle" = some ("schemas", "Circle") := by
    decide +kernel
  cases hread.symm.trans hc
  rfl

/-- A schema with a property whose name is the key of references and whose schema is missing. -/
def linkDocument : Entries Json := [
  ("openapi", .string "3.0.0"),
  ("info", .object [("title", .string "Links"), ("version", .string "1.0.0")]),
  ("paths", .object []),
  ("components", .object [("schemas", .object [("Link", .object [("type", .string "object"),
    ("properties", .object [("$ref", .object [
      ("$ref", .string "#/components/schemas/Missing")])])])])])]

/-- The reference of that property leads nowhere, but the check finds nothing. -/
theorem unresolved_missed_link :
    (Json.object linkDocument).LeadsTo ["components", "schemas", "Link", "properties", "$ref"]
      (.object [("$ref", .string "#/components/schemas/Missing")]) ∧
    componentOf? "#/components/schemas/Missing" = some ("schemas", "Missing") ∧
    ((((Json.object linkDocument).get? "components").bind (Json.get? "schemas")).bind
      (Json.get? "Missing")).isNone ∧
    structural (.object linkDocument) = [] := by
  refine ⟨?_, by decide +kernel, by decide, by decide +kernel⟩
  refine .member (List.mem_append_right [_, _, _] List.mem_cons_self) ?_
  refine .member List.mem_cons_self (.member List.mem_cons_self ?_)
  exact .member (List.mem_cons_of_mem _ List.mem_cons_self) (.member List.mem_cons_self (.here _))

end RouteDoc.Check
