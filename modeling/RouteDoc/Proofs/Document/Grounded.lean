import RouteDoc.Proofs.Component.Target
import RouteDoc.Proofs.Document.Call

namespace RouteDoc

open Component
open Operation (Route Method DeclaredResponse)

namespace Piece

/-- The references in the content of a response. -/
def contentTargets (response : Json) : List String :=
  (response.entriesAt "content").filterMap fun (_, media) =>
    ((media.get? "schema").bind (Json.get? "$ref")).bind Json.asString?

def bodyTargets (body : Operation.RequestBody) : List String :=
  body.content.map fun (_, media) => media.schema.target

/-- The references of a piece, each with the section it should lead to. -/
def targets : Piece → List (Section × String)
  | component ⟨.schemas, _, value⟩ => (componentTargets value).map (Section.schemas, ·)
  | component ⟨.responses, _, value⟩ => (contentTargets value).map (Section.schemas, ·)
  | operation _ _ value =>
    ((value.requestBody.map bodyTargets).getD []).map (Section.schemas, ·) ++
      value.responses.map fun (_, response) => (Section.responses, response.target)

/-- The reference is written for one of these names, in the section it should lead to. -/
def NamesOneOf (known : List (Section × String)) (target : Section × String) : Prop :=
  ∃ name, (target.1, name) ∈ known ∧ target.2 = reference target.1 name

/-- Each piece refers to names that are known or stand before it. -/
def Grounded (known : List (Section × String)) : List Piece → Prop
  | [] => True
  | piece :: rest =>
    (∀ target ∈ piece.targets, NamesOneOf known target) ∧ Grounded (known ++ piece.keys) rest

theorem Grounded.mono {known more : List (Section × String)} {pieces : List Piece}
    (h : Grounded known pieces) (hs : known ⊆ more) : Grounded more pieces := by
  induction pieces generalizing known more with
  | nil => trivial
  | cons piece rest ih =>
    refine ⟨fun target ht => ?_, ih h.2 ?_⟩
    · obtain ⟨name, hm, he⟩ := h.1 target ht
      exact ⟨name, hs hm, he⟩
    · exact List.append_subset.mpr
        ⟨List.subset_append_of_subset_left _ hs, List.subset_append_right _ _⟩

theorem Grounded.append {known : List (Section × String)} {first second : List Piece}
    (hf : Grounded known first) (hs : Grounded (known ++ first.flatMap keys) second) :
    Grounded known (first ++ second) := by
  induction first generalizing known with
  | nil => simpa using hs
  | cons piece rest ih =>
    refine ⟨hf.1, ih hf.2 ?_⟩
    simpa [List.append_assoc] using hs

theorem Grounded.flatMap {α : Type} {known : List (Section × String)} {list : List α}
    {f : α → List Piece} (h : ∀ element ∈ list, Grounded known (f element)) :
    Grounded known (list.flatMap f) := by
  induction list with
  | nil => trivial
  | cons first rest ih =>
    rw [List.flatMap_cons]
    refine (h first List.mem_cons_self).append (Grounded.mono ?_ (List.subset_append_left _ _))
    exact ih fun element hm => h element (List.mem_cons_of_mem _ hm)

theorem flatMap_keys_component (list : List Registration) :
    (list.map component).flatMap keys = list.map Registration.key := by
  induction list with
  | nil => rfl
  | cons entry rest ih => simp [keys, ih]

/-- The nodes of a schema are registered from the inside out. -/
theorem grounded_nodes (home : String) (spot : Spot) (known : List (Section × String)) :
    Grounded known ((spot.nodes.map (Spot.component home)).map component) := by
  induction spot generalizing known with
  | step spot ih =>
    rw [Spot.nodes_eq, List.map_append, List.map_append, List.map_flatMap, List.map_flatMap]
    refine (Grounded.flatMap fun other ho => ih other ho known).append ⟨?_, trivial⟩
    intro target ht
    change target ∈ (componentTargets (spot.component home).value).map (Section.schemas, ·) at ht
    rw [componentTargets_component, List.map_map] at ht
    obtain ⟨other, ho, rfl⟩ := List.mem_map.mp ht
    refine ⟨join home other.label, List.mem_append_right _ ?_, rfl⟩
    rw [← List.map_flatMap, ← List.map_flatMap, flatMap_keys_component, List.map_map]
    exact List.mem_map.mpr ⟨other, List.mem_flatMap.mpr ⟨other, ho, other.mem_nodes_self⟩, rfl⟩

theorem grounded_cut (schema : Json) (home label : String) (known : List (Section × String)) :
    Grounded known ((cut schema home label).map component) :=
  grounded_nodes home _ known

/-- A schema that is cut leaves a component of its own name. -/
theorem key_mem_cut (schema : Json) (home label : String) :
    (Section.schemas, join home label) ∈ (cut schema home label).map Registration.key := by
  rw [cut_postorder, List.map_append]
  exact List.mem_append_right _ (List.mem_singleton.mpr rfl)

/-- A built response refers to the component of its schema and to nothing else. -/
theorem targets_responseComponent (name : String) (response : DeclaredResponse) :
    (component (Operation.responseComponent name response)).targets =
      (response.schema.map fun _ =>
        (Section.schemas, schemaReference name Operation.responseLabel)).toList := by
  cases hd : response.description <;> cases hs : response.schema <;>
    simp [Operation.responseComponent, targets, contentTargets, hd, hs, Json.optionalString,
      Json.optional, Json.entriesAt, Json.get?, Entries.get?, Json.asObject?, Json.asString?,
      Operation.Content.toJson, Operation.jsonContent, Json.ofEntries, Operation.Media.toJson,
      Operation.Reference.toJson]

theorem grounded_response (home : String) (entry : String × DeclaredResponse)
    (known : List (Section × String)) :
    Grounded known ((Operation.responseRegistrations home entry).map component) := by
  obtain ⟨status, response⟩ := entry
  rw [Operation.responseRegistrations, List.map_append]
  cases hs : response.schema with
  | none =>
    refine ⟨fun target ht => ?_, trivial⟩
    rw [targets_responseComponent, hs] at ht
    cases ht
  | some schema =>
    refine (grounded_cut schema _ _ known).append ⟨fun target ht => ?_, trivial⟩
    rw [targets_responseComponent, hs] at ht
    rw [List.mem_singleton.mp ht]
    refine ⟨join (join home status) Operation.responseLabel, List.mem_append_right _ ?_, rfl⟩
    rw [flatMap_keys_component]
    exact key_mem_cut schema _ _

/-- A declared response leaves a component of its own name. -/
theorem key_mem_response (home : String) (entry : String × DeclaredResponse) :
    (Section.responses, join home entry.1) ∈
      (Operation.responseRegistrations home entry).map Registration.key := by
  rw [Operation.responseRegistrations, List.map_append]
  exact List.mem_append_right _ (List.mem_singleton.mpr rfl)

end Piece

namespace Document

open Piece

/-- The name that every operation without responses of its own relies on. -/
def sharedKey : Section × String := (.responses, Operation.defaultResponse)

theorem grounded_registrations (path name : String) (method : Method)
    (known : List (Section × String)) :
    Grounded known ((registrations path name method).map component) := by
  rw [registrations, List.map_append]
  refine Grounded.append ?_ ?_
  · cases method.bucket? bodyKey with
    | none => trivial
    | some body => exact grounded_cut body _ _ known
  · cases method.responses? with
    | none => trivial
    | some declared =>
      rw [Option.map_some, Option.getD_some, List.map_flatMap]
      exact Grounded.flatMap fun entry _ => grounded_response _ entry _

/-- The operation refers to its own components or to the shared response. -/
theorem targets_builtOperation {path name key : String} {method : Method}
    {target : Section × String}
    (ht : target ∈ (operation path key (builtOperation path name method)).targets) :
    NamesOneOf (sharedKey :: (registrations path name method).map Registration.key) target := by
  rcases List.mem_append.mp ht with ht | ht
  · obtain ⟨text, hm, rfl⟩ := List.mem_map.mp ht
    cases hb : method.bucket? bodyKey with
    | none => simp [builtOperation, builtBody, hb] at hm
    | some body =>
      simp only [builtOperation, builtBody, hb, Option.map_some, Option.getD_some, bodyTargets,
        Operation.jsonContent, List.map_cons, List.map_nil, List.mem_singleton] at hm
      refine ⟨join (operationName path name) bodyKey, List.mem_cons_of_mem _ ?_, hm⟩
      rw [registrations, hb, List.map_append]
      exact List.mem_append_left _ (key_mem_cut body _ _)
  · obtain ⟨response, hm, rfl⟩ := List.mem_map.mp ht
    simp only [builtOperation, builtResponses] at hm
    cases hr : method.responses? with
    | none =>
      rw [hr] at hm
      rw [List.mem_singleton.mp hm]
      exact ⟨Operation.defaultResponse, List.mem_cons_self, rfl⟩
    | some declared =>
      rw [hr] at hm
      obtain ⟨entry, he, rfl⟩ := List.mem_map.mp hm
      refine ⟨join (operationName path name) entry.1, List.mem_cons_of_mem _ ?_, rfl⟩
      rw [registrations, hr, List.map_append]
      apply List.mem_append_right
      rw [Option.map_some, Option.getD_some, List.map_flatMap]
      exact List.mem_flatMap.mpr ⟨entry, he, key_mem_response _ entry⟩

/-- What a route writes refers to the shared response or to what it wrote before. -/
theorem grounded_routePieces (route : Route) : Grounded [sharedKey] (routePieces route) := by
  refine Grounded.flatMap fun entry _ => ?_
  refine (grounded_registrations _ _ _ _).append ⟨fun target ht => ?_, trivial⟩
  rw [flatMap_keys_component]
  exact targets_builtOperation ht

end Document
end RouteDoc
